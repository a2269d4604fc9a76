import DhcpLeases.Pool.Usage
import DhcpLeases.Proofs.Pool.CountedRanges

namespace DhcpLeases

variable {c : Catalog}

theorem poolUsage_value {pool : String} {size : Nat} (h : (poolCapacity c pool).value = .ok size)
    (leases : List ListedLease) :
    (poolUsage c leases pool).value =
      .ok (.of pool size (leases.countP (LeaseQuery.activeIn pool).selects)) := by
  simp only [poolUsage, h]

theorem poolUsages_value (size : String → Nat) {pools : List String}
    (h : ∀ pool ∈ pools, (poolCapacity c pool).value = .ok (size pool)) (leases : List ListedLease) :
    (poolUsages c leases pools).value = .ok (pools.map fun pool =>
      .of pool (size pool) (leases.countP (LeaseQuery.activeIn pool).selects)) := by
  induction pools with
  | nil => rfl
  | cons pool pools ih =>
    have hpool := poolUsage_value (h pool List.mem_cons_self) leases
    have hrest := ih fun p hp => h p (List.mem_cons_of_mem pool hp)
    simp only [poolUsages, hpool, Logged.behind, Logged.map, hrest, List.map_cons]
    rfl

namespace Settings

variable {s : Settings}

theorem exists_network_of_hasPool {pool : String} (h : s.catalog.hasPool pool) :
    ∃ n ∈ s.networks, n.name = pool := by
  obtain ⟨n, hn⟩ := Option.isSome_iff_exists.1 h
  rw [network?] at hn
  exact ⟨n, List.mem_of_find?_eq_some hn, by simpa using List.find?_some hn⟩

theorem IsSound.poolCapacity_reached (h : s.IsSound) {n : SharedNetwork} (hn : n ∈ s.networks) :
    (poolCapacity s.catalog n.name).value =
      .ok (min (totalCount (s.catalog.reached n.name)) maxCapacity) := by
  rw [h.poolCapacity_eq hn, h.catalog_reached hn]

theorem IsSound.usageReport_ok (h : s.IsSound) (leases : List ListedLease) (pool : Option String) :
    ∃ report, (usageReport s.catalog leases pool).value = .ok report := by
  let size (p : String) : Nat := min (totalCount (s.catalog.reached p)) maxCapacity
  have hsize : ∀ n ∈ s.networks, (poolCapacity s.catalog n.name).value = .ok (size n.name) :=
    fun n hn => h.poolCapacity_reached hn
  cases pool with
  | none =>
    have hpools : ∀ p ∈ s.catalog.pools, (poolCapacity s.catalog p).value = .ok (size p) :=
      List.forall_mem_map.2 hsize
    rw [usageReport, Logged.map, poolUsages_value size hpools leases]
    exact ⟨_, rfl⟩
  | some pool =>
    by_cases hpool : s.catalog.hasPool pool = true
    · obtain ⟨n, hn, rfl⟩ := exists_network_of_hasPool hpool
      have hpools : ∀ p ∈ [n.name], (poolCapacity s.catalog p).value = .ok (size p) := by
        intro p hp
        rw [List.mem_singleton.1 hp]
        exact hsize n hn
      rw [usageReport, if_pos hpool, Logged.map, poolUsages_value size hpools leases]
      exact ⟨_, rfl⟩
    · rw [usageReport, if_neg hpool]
      exact ⟨_, rfl⟩

end Settings

/-- An active lease that names the pool. -/
def ListedLease.IsActiveIn (l : ListedLease) (pool : String) : Prop :=
  l.state = .active ∧ l.pool = pool

instance (l : ListedLease) (pool : String) : Decidable (l.IsActiveIn pool) :=
  inferInstanceAs (Decidable (_ ∧ _))

theorem StateFilter.admits_default_iff (state : BindingState) :
    default.admits state ↔ state = .active := by
  cases state <;> decide

theorem selects_activeIn_iff (pool : String) (l : ListedLease) :
    (LeaseQuery.activeIn pool).selects l ↔ l.IsActiveIn pool := by
  simp only [LeaseQuery.selects, LeaseQuery.activeIn, Bool.and_eq_true,
    StateFilter.admits_default_iff, Option.all_some, decide_eq_true_eq]
  exact Iff.rfl

theorem countP_activeIn (pool : String) (leases : List ListedLease) :
    leases.countP (LeaseQuery.activeIn pool).selects = leases.countP fun l => l.IsActiveIn pool := by
  apply List.countP_congr
  intro l _
  rw [selects_activeIn_iff, decide_eq_true_eq]

/-- Counted pool by pool, each active lease is counted once if its pool is among the pools. -/
theorem sum_countP_isActiveIn {pools : List String} (h : pools.Nodup) (leases : List ListedLease) :
    (pools.map fun pool => leases.countP fun l => l.IsActiveIn pool).sum =
      leases.countP fun l => l.state = .active ∧ l.pool ∈ pools := by
  induction pools with
  | nil => simp
  | cons pool pools ih =>
    obtain ⟨hpool, hpools⟩ := List.nodup_cons.1 h
    -- the leases of the first pool apart from the others
    have hsplit := List.countP_eq_countP_filter_add leases
      (fun l => l.state = .active ∧ l.pool ∈ pool :: pools) fun l => l.pool = pool
    have hfirst : (leases.filter fun l => l.pool = pool).countP
        (fun l => l.state = .active ∧ l.pool ∈ pool :: pools) =
          leases.countP fun l => l.IsActiveIn pool := by
      rw [List.countP_filter]
      apply List.countP_congr
      intro l _
      simp only [Bool.and_eq_true, decide_eq_true_eq]
      constructor
      · rintro ⟨⟨hactive, -⟩, heq⟩
        exact ⟨hactive, heq⟩
      · rintro ⟨hactive, heq⟩
        exact ⟨⟨hactive, heq ▸ List.mem_cons_self⟩, heq⟩
    have hothers : (leases.filter fun l => !decide (l.pool = pool)).countP
        (fun l => l.state = .active ∧ l.pool ∈ pool :: pools) =
          leases.countP fun l => l.state = .active ∧ l.pool ∈ pools := by
      rw [List.countP_filter]
      apply List.countP_congr
      intro l _
      simp only [Bool.and_eq_true, decide_eq_true_eq, Bool.not_eq_true', decide_eq_false_iff_not]
      constructor
      · rintro ⟨⟨hactive, hmem⟩, hne⟩
        exact ⟨hactive, (List.mem_cons.1 hmem).resolve_left hne⟩
      · rintro ⟨hactive, hmem⟩
        exact ⟨⟨hactive, List.mem_cons_of_mem pool hmem⟩, fun heq => hpool (heq ▸ hmem)⟩
    rw [List.map_cons, List.sum_cons, ih hpools, hsplit, hfirst, hothers]

namespace Settings

variable {s : Settings}

/-- A lease tagged with the name of a network. -/
def Tags (s : Settings) (l : ListedLease) : Prop :=
  l.pool ≠ "" ∧ l.pool ∈ s.networks.map (·.name)

instance (s : Settings) (l : ListedLease) : Decidable (s.Tags l) :=
  inferInstanceAs (Decidable (_ ∧ _))

def usageRow (s : Settings) (leases : List ListedLease) (pool : String) : PoolUsage :=
  .of pool (min (totalCount (s.catalog.reached pool)) maxCapacity)
    (leases.countP fun l => l.IsActiveIn pool)

theorem IsSound.usageReport_all (h : s.IsSound) (leases : List ListedLease) :
    (usageReport s.catalog leases none).value =
      .ok (.ofRows ((s.networks.map (·.name)).map (s.usageRow leases))) := by
  have hpools : ∀ pool ∈ s.catalog.pools, (poolCapacity s.catalog pool).value =
      .ok (min (totalCount (s.catalog.reached pool)) maxCapacity) :=
    List.forall_mem_map.2 fun n hn => h.poolCapacity_reached hn
  have hrows := poolUsages_value _ hpools leases
  simp only [countP_activeIn] at hrows
  simp only [usageReport, Logged.map, hrows]
  rfl

theorem IsSound.usageRow_filter_tags (h : s.IsSound) {pool : String}
    (hpool : pool ∈ s.networks.map (·.name)) (leases : List ListedLease) :
    s.usageRow (leases.filter (s.Tags ·)) pool = s.usageRow leases pool := by
  obtain ⟨n, hn, hname⟩ := List.mem_map.1 hpool
  have hnamed : pool ≠ "" := hname ▸ (h.networks n hn).named
  rw [usageRow, usageRow, List.countP_filter]
  congr 1
  apply List.countP_congr
  intro l _
  simp only [Bool.and_eq_true, decide_eq_true_eq]
  constructor
  · exact And.left
  · rintro ⟨hactive, rfl⟩
    exact ⟨⟨hactive, rfl⟩, hnamed, hpool⟩

/-- A report over all pools of valid settings has a row for each network. Every active lease that is tagged
with a network is counted in the row of this network alone, and leases that are not are not counted. -/
theorem usageReport_counts_once (h : s.validate = .ok ()) (leases : List ListedLease) :
    ∃ rows, (usageReport s.catalog leases none).value = .ok (.ofRows rows) ∧
      rows.map (·.pool) = s.networks.map (·.name) ∧
      (rows.map (·.active)).sum =
        leases.countP (fun l => l.state = .active ∧ ∃ n ∈ s.networks, n.name = l.pool) ∧
      (∀ row ∈ rows, row.active = leases.countP fun l => l.IsActiveIn row.pool) ∧
      (usageReport s.catalog (leases.filter (s.Tags ·)) none).value = .ok (.ofRows rows) := by
  have hsound := (validate_eq_ok_iff s).1 h
  refine ⟨_, hsound.usageReport_all leases, ?_, ?_, ?_, ?_⟩
  · rw [List.map_map]
    exact List.map_id _
  · have hsum := sum_countP_isActiveIn hsound.distinct leases
    simp only [List.mem_map] at hsum
    rw [List.map_map]
    exact hsum
  · exact List.forall_mem_map.2 fun pool _ => rfl
  · rw [hsound.usageReport_all, List.map_congr_left]
    intro pool hpool
    exact hsound.usageRow_filter_tags hpool leases

def twoNetworks : Settings :=
  ⟨"j", "k", "s", [⟨"LAN", []⟩, ⟨"WIFI", []⟩]⟩

def mixedLeases : List ListedLease :=
  [(.active, "LAN"), (.active, ""), (.free, "LAN"), (.active, "WIFI"), (.active, "LAB"),
    (.active, "LAN")].map fun p =>
      { address := .v4 1, hardwareAddress := none, state := p.1, start := "", stop := "",
        remaining := "", pool := p.2, hostname := none, tstp := "", tsfp := "", atsfp := "", cltt := "" }

theorem usageReport_counts_once_mixedLeases : twoNetworks.validate = .ok () ∧
    ∃ rows, (usageReport twoNetworks.catalog mixedLeases none).value = .ok (.ofRows rows) ∧
      rows.map (·.pool) = ["LAN", "WIFI"] ∧ (rows.map (·.active)).sum = 3 := by
  have hvalid : twoNetworks.validate = .ok () := rfl
  obtain ⟨rows, hrows, hpools, hsum, -⟩ := usageReport_counts_once hvalid mixedLeases
  refine ⟨hvalid, rows, hrows, hpools, ?_⟩
  rw [hsum]
  decide

end Settings

end DhcpLeases
