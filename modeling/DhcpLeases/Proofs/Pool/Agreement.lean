import DhcpLeases.Proofs.Lease.CurrentListing
import DhcpLeases.Proofs.Pool.Usage
import Mathlib.Algebra.Ring.Int.Defs
import Mathlib.Data.List.Forall2

namespace DhcpLeases

theorem map_eq_ok_iff {ε α β : Type} {f : α → β} {x : Except ε α} {b : β} :
    x.map f = .ok b ↔ ∃ a, x = .ok a ∧ f a = b := by
  cases x with
  | error e => exact iff_of_false (fun h => nomatch h) fun ⟨_, h, _⟩ => nomatch h
  | ok a =>
    constructor
    · intro h
      exact ⟨a, rfl, Except.ok.inj h⟩
    · rintro ⟨_, h, rfl⟩
      cases h
      rfl

theorem map_eq_error_iff {ε α β : Type} {f : α → β} {x : Except ε α} {e : ε} :
    x.map f = .error e ↔ x = .error e := by
  cases x with
  | error e' => exact ⟨fun h => congrArg Except.error (Except.error.inj h), fun h => by rw [h]; rfl⟩
  | ok a => exact iff_of_false (fun h => nomatch h) fun h => nomatch h

variable {c : Catalog} {leases : List ListedLease} {pool : String} {pools : List String}

/-- A row tells of a pool what its ranges and the listing of its active leases tell. -/
structure PoolUsage.Tells (row : PoolUsage) (c : Catalog) (leases : List ListedLease)
    (pool : String) : Prop where
  named : row.pool = pool
  size : (poolCapacity c pool).value = .ok row.size
  active : ∀ order,
    row.active = (LeaseQuery.run ⟨.only [.active], some pool, order⟩ leases c).value.rows.length
  available : row.active ≤ Number.max64 →
    row.available = min (2 ^ 127 - 1) ((row.size : Int) - row.active)

theorem run_unknown_pool (h : ¬c.hasPool pool) (states : StateFilter) (order : SortKey) :
    (LeaseQuery.run ⟨states, some pool, order⟩ leases c).value = .explained (.noSuchPool pool) := by
  have hmissing : (⟨states, some pool, order⟩ : LeaseQuery).missingPool? c = some pool := by
    simp [LeaseQuery.missingPool?, h]
  rw [LeaseQuery.run_of_missing hmissing]

theorem run_known_pool (h : c.hasPool pool) (states : StateFilter) (order : SortKey) :
    (LeaseQuery.run ⟨states, some pool, order⟩ leases c).value =
      .ofRows (order.sort (leases.filter (LeaseQuery.selects ⟨states, some pool, order⟩))) := by
  rw [LeaseQuery.run_of_known (LeaseQuery.missingPool?_eq_none (by simpa using h))]

theorem length_run_active (h : c.hasPool pool) (order : SortKey) :
    (LeaseQuery.run ⟨.only [.active], some pool, order⟩ leases c).value.rows.length =
      leases.countP (LeaseQuery.activeIn pool).selects := by
  rw [run_known_pool h, Report.ofRows, (order.sort_perm _).length_eq, List.countP_eq_length_filter]
  rfl

theorem Number.toSigned128?_getD (n : Nat) :
    (toSigned128? n).getD maxSigned128 = min (n : Int) (2 ^ 127 - 1) := by
  have hmax : (maxSigned128 : Int) = 2 ^ 127 - 1 := rfl
  unfold toSigned128?
  by_cases h : n ≤ maxSigned128
  · rw [if_pos h, Option.getD_some]
    omega
  · rw [if_neg h, Option.getD_none]
    omega

/-- A difference is cut at either end of its range, and at the lower end the smallest number is left out. -/
theorem availableOf_eq (size active : Nat) :
    availableOf size active = max (-(2 ^ 127 - 1)) (min ((size : Int) - active) (2 ^ 127 - 1)) := by
  unfold availableOf
  by_cases h : active ≤ size
  · rw [if_pos h, Number.toSigned128?_getD]
    omega
  · rw [if_neg h, Number.toSigned128?_getD]
    omega

/-- A number of leases has 64 bits, so no difference reaches the lower end. -/
theorem availableOf_of_le {size active : Nat} (h : active ≤ Number.max64) :
    availableOf size active = min (2 ^ 127 - 1) ((size : Int) - active) := by
  unfold Number.max64 at h
  rw [availableOf_eq]
  omega

theorem poolUsage_tells (h : c.hasPool pool) {row : PoolUsage}
    (hrow : (poolUsage c leases pool).value = .ok row) : row.Tells c leases pool := by
  cases hsize : (poolCapacity c pool).value with
  | error failure =>
    simp only [poolUsage, hsize] at hrow
    cases hrow
  | ok size =>
    rw [poolUsage_value hsize] at hrow
    cases hrow
    exact ⟨rfl, hsize, fun order => (length_run_active h order).symm, availableOf_of_le⟩

theorem poolUsages_cons_of_error {failure : Failure}
    (h : (poolUsage c leases pool).value = .error failure) (pools : List String) :
    (poolUsages c leases (pool :: pools)).value = .error failure := by
  simp only [poolUsages, h]

theorem poolUsages_cons_of_ok {row : PoolUsage} (h : (poolUsage c leases pool).value = .ok row)
    (pools : List String) :
    (poolUsages c leases (pool :: pools)).value = (poolUsages c leases pools).value.map (row :: ·) := by
  simp only [poolUsages, h]
  rfl

theorem usageReport_unknown_pool (h : ¬c.hasPool pool) :
    (usageReport c leases (some pool)).value = .ok (.explained (.noSuchPool pool)) := by
  rw [usageReport, if_neg h]

theorem usageReport_known_pool (h : c.hasPool pool) :
    (usageReport c leases (some pool)).value =
      (poolUsage c leases pool).value.map fun row => .ofRows [row] := by
  rw [usageReport, if_pos h, Logged.map]
  cases hpool : (poolUsage c leases pool).value with
  | error failure => rw [poolUsages_cons_of_error hpool]; rfl
  | ok row => rw [poolUsages_cons_of_ok hpool]; rfl

theorem poolUsages_eq_ok_iff (h : ∀ pool ∈ pools, c.hasPool pool) (rows : List PoolUsage) :
    (poolUsages c leases pools).value = .ok rows ↔
      ∃ reports, List.Forall₂
        (fun pool report => (usageReport c leases (some pool)).value = .ok report) pools reports ∧
        rows = reports.flatMap (·.rows) := by
  induction pools generalizing rows with
  | nil =>
    simp only [List.forall₂_nil_left_iff, exists_eq_left, List.flatMap_nil]
    constructor
    · intro h
      cases h
      rfl
    · rintro rfl
      rfl
  | cons pool pools ih =>
    obtain ⟨hpool, hpools⟩ := List.forall_mem_cons.1 h
    simp only [List.forall₂_cons_left_iff, usageReport_known_pool hpool, map_eq_ok_iff]
    cases hrow : (poolUsage c leases pool).value with
    | error failure =>
      rw [poolUsages_cons_of_error hrow]
      refine iff_of_false (fun h => nomatch h) ?_
      rintro ⟨_, ⟨_, _, ⟨_, h, _⟩, _⟩, _⟩
      cases h
    | ok row =>
      rw [poolUsages_cons_of_ok hrow, map_eq_ok_iff]
      constructor
      · rintro ⟨rest, hrest, rfl⟩
        obtain ⟨reports, hreports, rfl⟩ := (ih hpools rest).1 hrest
        exact ⟨_, ⟨_, reports, ⟨row, rfl, rfl⟩, hreports, rfl⟩, rfl⟩
      · rintro ⟨_, ⟨_, reports, ⟨_, hsame, rfl⟩, hreports, rfl⟩, rfl⟩
        cases hsame
        exact ⟨_, (ih hpools _).2 ⟨reports, hreports, rfl⟩, rfl⟩

theorem poolUsages_eq_error_iff (h : ∀ pool ∈ pools, c.hasPool pool) (failure : Failure) :
    (poolUsages c leases pools).value = .error failure ↔
      ∃ before pool after, pools = before ++ pool :: after ∧
        (∀ p ∈ before, ∃ report, (usageReport c leases (some p)).value = .ok report) ∧
        (usageReport c leases (some pool)).value = .error failure := by
  induction pools with
  | nil =>
    refine iff_of_false (fun h => nomatch h) ?_
    rintro ⟨before, pool, after, h, -⟩
    cases before <;> cases h
  | cons first pools ih =>
    obtain ⟨hpool, hpools⟩ := List.forall_mem_cons.1 h
    have hreport : (usageReport c leases (some first)).value = _ := usageReport_known_pool hpool
    cases hfirst : (poolUsage c leases first).value with
    | error e =>
      rw [poolUsages_cons_of_error hfirst]
      rw [hfirst] at hreport
      constructor
      · intro h
        cases h
        exact ⟨[], first, pools, rfl, List.forall_mem_nil _, hreport⟩
      · rintro ⟨before, pool, after, hsplit, hbefore, hfailed⟩
        cases before with
        | nil =>
          cases hsplit
          rw [hreport] at hfailed
          cases hfailed
          rfl
        | cons p before =>
          cases hsplit
          obtain ⟨report, hok⟩ := hbefore first List.mem_cons_self
          rw [hreport] at hok
          cases hok
    | ok row =>
      rw [poolUsages_cons_of_ok hfirst, map_eq_error_iff, ih hpools]
      rw [hfirst] at hreport
      constructor
      · rintro ⟨before, pool, after, rfl, hbefore, hfailed⟩
        refine ⟨first :: before, pool, after, rfl, ?_, hfailed⟩
        exact List.forall_mem_cons.2 ⟨⟨_, hreport⟩, hbefore⟩
      · rintro ⟨before, pool, after, hsplit, hbefore, hfailed⟩
        cases before with
        | nil =>
          cases hsplit
          rw [hreport] at hfailed
          cases hfailed
        | cons p before =>
          cases hsplit
          exact ⟨before, pool, after, rfl, (List.forall_mem_cons.1 hbefore).2, hfailed⟩

namespace Settings

theorem hasPool_iff {s : Settings} {pool : String} :
    s.catalog.hasPool pool ↔ pool ∈ s.networks.map (·.name) := by
  simp [catalog, network?]

theorem usageReport_all_eq_ok_iff (s : Settings) (leases : List ListedLease)
    (report : Report PoolUsage) :
    (usageReport s.catalog leases none).value = .ok report ↔
      ∃ reports, List.Forall₂
        (fun pool report => (usageReport s.catalog leases (some pool)).value = .ok report)
        s.catalog.pools reports ∧ report = ⟨reports.flatMap (·.rows), []⟩ := by
  have hpools : ∀ pool ∈ s.catalog.pools, s.catalog.hasPool pool := fun _ => hasPool_iff.2
  rw [usageReport, Logged.map, map_eq_ok_iff]
  constructor
  · rintro ⟨rows, hrows, rfl⟩
    obtain ⟨reports, hreports, rfl⟩ := (poolUsages_eq_ok_iff hpools rows).1 hrows
    exact ⟨reports, hreports, rfl⟩
  · rintro ⟨reports, hreports, rfl⟩
    exact ⟨_, (poolUsages_eq_ok_iff hpools _).2 ⟨reports, hreports, rfl⟩, rfl⟩

theorem usageReport_all_eq_error_iff (s : Settings) (leases : List ListedLease) (failure : Failure) :
    (usageReport s.catalog leases none).value = .error failure ↔
      ∃ before pool after, s.catalog.pools = before ++ pool :: after ∧
        (∀ p ∈ before, ∃ report, (usageReport s.catalog leases (some p)).value = .ok report) ∧
        (usageReport s.catalog leases (some pool)).value = .error failure := by
  rw [usageReport, Logged.map, map_eq_error_iff]
  exact poolUsages_eq_error_iff (fun _ => hasPool_iff.2) failure

theorem usageReport_all_ok_iff (s : Settings) (leases : List ListedLease) :
    (∃ report, (usageReport s.catalog leases none).value = .ok report) ↔
      ∀ pool ∈ s.catalog.pools, ∃ report,
        (usageReport s.catalog leases (some pool)).value = .ok report := by
  constructor
  · rintro ⟨report, hreport⟩
    obtain ⟨reports, hreports, -⟩ := (s.usageReport_all_eq_ok_iff leases report).1 hreport
    exact ((List.forall₂_and_left _ _).1 (hreports.imp fun pool report h => ⟨⟨report, h⟩, h⟩)).1
  · intro h
    cases hall : (usageReport s.catalog leases none).value with
    | ok report => exact ⟨report, rfl⟩
    | error failure =>
      obtain ⟨before, pool, after, hsplit, -, hfailed⟩ :=
        (s.usageReport_all_eq_error_iff leases failure).1 hall
      obtain ⟨report, hok⟩ := h pool (hsplit ▸ List.mem_append_right before List.mem_cons_self)
      rw [hfailed] at hok
      cases hok

/-- The usage of a pool, the usage of all pools and the listing of a pool agree, for any settings at all. -/
theorem usageReport_agrees (s : Settings) (leases : List ListedLease) :
    (∀ pool, pool ∉ s.networks.map (·.name) →
      (usageReport s.catalog leases (some pool)).value = .ok ⟨[], [.noSuchPool pool]⟩ ∧
      ∀ states order, (LeaseQuery.run ⟨states, some pool, order⟩ leases s.catalog).value =
        ⟨[], [.noSuchPool pool]⟩) ∧
    (∀ pool ∈ s.networks.map (·.name), ∀ report,
      (usageReport s.catalog leases (some pool)).value = .ok report →
      ∃ row, report = ⟨[row], []⟩ ∧ row.Tells s.catalog leases pool) ∧
    ((∃ report, (usageReport s.catalog leases none).value = .ok report) ↔
      ∀ pool ∈ s.catalog.pools, ∃ report,
        (usageReport s.catalog leases (some pool)).value = .ok report) ∧
    (∀ report, (usageReport s.catalog leases none).value = .ok report ↔
      ∃ reports, List.Forall₂
        (fun pool report => (usageReport s.catalog leases (some pool)).value = .ok report)
        s.catalog.pools reports ∧ report = ⟨reports.flatMap (·.rows), []⟩) ∧
    ∀ failure, (usageReport s.catalog leases none).value = .error failure ↔
      ∃ before pool after, s.catalog.pools = before ++ pool :: after ∧
        (∀ p ∈ before, ∃ report, (usageReport s.catalog leases (some p)).value = .ok report) ∧
        (usageReport s.catalog leases (some pool)).value = .error failure := by
  refine ⟨?_, ?_, s.usageReport_all_ok_iff leases, s.usageReport_all_eq_ok_iff leases,
    s.usageReport_all_eq_error_iff leases⟩
  · intro pool hpool
    have hunknown := mt hasPool_iff.1 hpool
    exact ⟨usageReport_unknown_pool hunknown, run_unknown_pool hunknown⟩
  · intro pool hpool report hreport
    have hknown := hasPool_iff.2 hpool
    rw [usageReport_known_pool hknown, map_eq_ok_iff] at hreport
    obtain ⟨row, hrow, rfl⟩ := hreport
    exact ⟨row, rfl, poolUsage_tells hknown hrow⟩

def unsoundNetworks : Settings :=
  ⟨"j", "k", "s", [⟨"LAN", [⟨"all", [⟨"r", .v6 0, .v6 (.allOnes 128)⟩]⟩]⟩, ⟨"LAN", []⟩,
    ⟨"WIFI", [⟨"one", [⟨"r", .v4 9, .v4 1⟩]⟩]⟩]⟩

theorem usageReport_agrees_unsoundNetworks :
    "LAN" ∈ unsoundNetworks.networks.map (·.name) ∧
    "LAB" ∉ unsoundNetworks.networks.map (·.name) ∧
    (usageReport unsoundNetworks.catalog mixedLeases (some "LAB")).value =
      .ok ⟨[], [.noSuchPool "LAB"]⟩ ∧
    (∃ row, (usageReport unsoundNetworks.catalog mixedLeases (some "LAN")).value = .ok ⟨[row], []⟩ ∧
      row.Tells unsoundNetworks.catalog mixedLeases "LAN" ∧ row.available = 2 ^ 127 - 1) ∧
    (usageReport unsoundNetworks.catalog mixedLeases none).value =
      .error (.badRange (.v4 9) (.v4 1)) := by
  obtain ⟨hunknown, hknown, -, -, herror⟩ := usageReport_agrees unsoundNetworks mixedLeases
  have hreport : (usageReport unsoundNetworks.catalog mixedLeases (some "LAN")).value =
      .ok ⟨[.of "LAN" maxCapacity 2], []⟩ := by decide
  obtain ⟨row, hrow, htells⟩ := hknown "LAN" (by decide) _ hreport
  cases hrow
  have havailable := htells.available (by decide)
  refine ⟨by decide, by decide, (hunknown "LAB" (by decide)).1,
    ⟨_, hreport, htells, havailable.trans (by decide)⟩, ?_⟩
  exact (herror _).2 ⟨["LAN", "LAN"], "WIFI", [], rfl, by simpa using ⟨_, hreport⟩, by decide⟩

end Settings

end DhcpLeases
