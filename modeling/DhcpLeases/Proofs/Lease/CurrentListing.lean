import DhcpLeases.Journal.Reading
import DhcpLeases.Lease.Query
import DhcpLeases.Proofs.Lease.Latest

namespace DhcpLeases

namespace SortKey

theorem sort_perm (key : SortKey) (leases : List ListedLease) : (key.sort leases).Perm leases :=
  List.mergeSort_perm leases _

theorem sort_ip_of_ascending {leases : List ListedLease}
    (h : leases.Pairwise fun l k => l.address.Precedes k.address) : ip.sort leases = leases := by
  apply List.mergeSort_of_pairwise
  apply h.imp
  intro l k hprecedes
  have hlt : ip.compare l k = .lt := (Address.compare_eq_lt_iff _ _).2 hprecedes
  rw [hlt]
  rfl

end SortKey

theorem Address.Precedes.ne {a b : Address} (h : a.Precedes b) : a ≠ b := by
  rintro rfl
  have hlt := (compare_eq_lt_iff a a).2 h
  rw [Std.ReflOrd.compare_self] at hlt
  cases hlt

variable {rs : List LeaseRecord} {r : LeaseRecord}

theorem latest_ascending (rs : List LeaseRecord) :
    (latest rs).Pairwise fun r q => r.address.Precedes q.address :=
  (Standing.keeps_latest rs).values_pairwise

theorem mem_latest_iff : r ∈ latest rs ↔ IsLatest rs r := by
  constructor
  · exact mem_latest_isLatest
  · intro h
    obtain ⟨q, hq, ha⟩ := (exists_mem_latest_iff rs r.address).2 ⟨r, h.mem, rfl⟩
    rwa [← (mem_latest_isLatest hq).unique h ha]

theorem Viewpoint.listAll_ascending (v : Viewpoint)
    (h : rs.Pairwise fun r q => r.address.Precedes q.address) :
    (v.listAll rs).Pairwise fun l k => l.address.Precedes k.address :=
  List.pairwise_map.2 h

namespace LeaseQuery

/-- What a query asks of a record: a state, and a pool as the value of the pool key. A record without the
key has the empty text as its value. -/
def Seeks (q : LeaseQuery) (poolKey : String) (r : LeaseRecord) : Prop :=
  q.states.admits r.state ∧ ∀ pool ∈ q.pool, (r.attributes.get? poolKey).getD "" = pool

instance (q : LeaseQuery) (poolKey : String) (r : LeaseRecord) : Decidable (q.Seeks poolKey r) :=
  inferInstanceAs (Decidable (_ ∧ _))

theorem selects_list_iff (q : LeaseQuery) (v : Viewpoint) (r : LeaseRecord) :
    q.selects (v.list r) ↔ q.Seeks v.poolKey r := by
  simp only [selects, Bool.and_eq_true, Option.all_eq_true, decide_eq_true_eq]
  exact Iff.rfl

theorem filter_listAll (q : LeaseQuery) (v : Viewpoint) (rs : List LeaseRecord) :
    (v.listAll rs).filter q.selects = v.listAll (rs.filter fun r => q.Seeks v.poolKey r) := by
  rw [Viewpoint.listAll, List.filter_map]
  apply congrArg
  apply List.filter_congr
  intro r _
  rw [Bool.eq_iff_iff, Function.comp_apply, selects_list_iff, decide_eq_true_eq]

def currentRows (q : LeaseQuery) (v : Viewpoint) (c : Catalog) (rs : List LeaseRecord) :
    List ListedLease :=
  (q.run (v.listAll (latest rs)) c).value.rows

variable {q : LeaseQuery} {c : Catalog} {v : Viewpoint}

theorem missingPool?_eq_none (h : ∀ pool ∈ q.pool, c.hasPool pool) : q.missingPool? c = none := by
  rw [missingPool?, Option.filter_eq_none_iff]
  intro pool hpool
  simp [h pool hpool]

theorem run_of_known (h : q.missingPool? c = none) (leases : List ListedLease) :
    q.run leases c = ⟨.ofRows (q.order.sort (leases.filter q.selects)),
      [.leasesListed (q.order.sort (leases.filter q.selects)).length q.order.name]⟩ := by
  rw [run, h]

theorem run_of_missing {pool : String} (h : q.missingPool? c = some pool)
    (leases : List ListedLease) : q.run leases c = ⟨.explained (.noSuchPool pool), []⟩ := by
  rw [run, h]

theorem currentRows_eq_sort (h : ∀ pool ∈ q.pool, c.hasPool pool) (rs : List LeaseRecord) :
    q.currentRows v c rs =
      q.order.sort (v.listAll ((latest rs).filter fun r => q.Seeks v.poolKey r)) := by
  rw [currentRows, run_of_known (missingPool?_eq_none h), ← filter_listAll]
  rfl

theorem mem_currentRows_iff (h : ∀ pool ∈ q.pool, c.hasPool pool) (l : ListedLease) :
    l ∈ q.currentRows v c rs ↔ ∃ r, IsLatest rs r ∧ q.Seeks v.poolKey r ∧ v.list r = l := by
  rw [currentRows_eq_sort h, (q.order.sort_perm _).mem_iff, Viewpoint.listAll, List.mem_map]
  simp only [List.mem_filter, mem_latest_iff, decide_eq_true_eq, and_assoc]

theorem currentRows_address_nodup (h : ∀ pool ∈ q.pool, c.hasPool pool) (rs : List LeaseRecord) :
    ((q.currentRows v c rs).map (·.address)).Nodup := by
  rw [currentRows_eq_sort h, ((q.order.sort_perm _).map _).nodup_iff, List.Nodup, List.pairwise_map]
  apply (v.listAll_ascending ((latest_ascending rs).filter _)).imp
  intro l k hprecedes
  exact hprecedes.ne

/-- A listing of a journal never shows a superseded lease and never loses a current one. -/
theorem currentRows_exact (q : LeaseQuery) (v : Viewpoint) (c : Catalog) (text : List Char)
    (h : ∀ pool ∈ q.pool, c.hasPool pool) :
    ((q.currentRows v c (Journal.records text)).map (·.address)).Nodup ∧
      (∀ a, (∃ l ∈ q.currentRows v c (Journal.records text), l.address = a) ↔
        ∃ r, IsLatest (Journal.records text) r ∧ r.address = a ∧ q.Seeks v.poolKey r) ∧
      (∀ l ∈ q.currentRows v c (Journal.records text),
        ∃ r, IsLatest (Journal.records text) r ∧ l = v.list r) ∧
      (q.order = .ip → q.currentRows v c (Journal.records text) =
        v.listAll ((latest (Journal.records text)).filter fun r => q.Seeks v.poolKey r)) := by
  refine ⟨currentRows_address_nodup h _, ?_, ?_, ?_⟩
  · intro a
    constructor
    · rintro ⟨l, hl, rfl⟩
      obtain ⟨r, hlatest, hseeks, rfl⟩ := (mem_currentRows_iff h l).1 hl
      exact ⟨r, hlatest, rfl, hseeks⟩
    · rintro ⟨r, hlatest, rfl, hseeks⟩
      exact ⟨v.list r, (mem_currentRows_iff h _).2 ⟨r, hlatest, hseeks, rfl⟩, rfl⟩
  · intro l hl
    obtain ⟨r, hlatest, -, rfl⟩ := (mem_currentRows_iff h l).1 hl
    exact ⟨r, hlatest, rfl⟩
  · intro horder
    rw [currentRows_eq_sort h, horder]
    exact SortKey.sort_ip_of_ascending (v.listAll_ascending ((latest_ascending _).filter _))

def renewedJournal : List Char :=
  ("lease ::1\x7bstarts epoch 1;binding state active;set p = x;\x7d" ++
    "lease ::2\x7bbinding state active;set p = x;\x7d" ++
    "lease ::1\x7bstarts epoch 3;binding state free;set p = x;\x7d").toList

def lonePool (pool : String) : Catalog :=
  CatalogTables.toCatalog ⟨[pool], [pool], [], [], []⟩

theorem currentRows_renewed :
    (∀ pool ∈ (activeIn "x").pool, (lonePool "x").hasPool pool) ∧
      ((activeIn "x").currentRows ⟨.epoch, 0, "p"⟩ (lonePool "x") (Journal.records renewedJournal)).map
        (·.address) = [.v6 2] := by
  have hpool : ∀ pool ∈ (activeIn "x").pool, (lonePool "x").hasPool pool := by decide
  obtain ⟨-, -, -, hip⟩ := currentRows_exact (activeIn "x") ⟨.epoch, 0, "p"⟩ _ renewedJournal hpool
  refine ⟨hpool, ?_⟩
  rw [hip rfl]
  decide +kernel

def taglessJournal : List Char :=
  "lease ::3\x7bbinding state active;\x7d".toList

/-- A lease without a pool is listed for a pool of the empty name, though no attribute names that pool. -/
theorem currentRows_nameless_pool :
    (∀ pool ∈ (activeIn "").pool, (lonePool "").hasPool pool) ∧
      ¬((∃ l ∈ (activeIn "").currentRows ⟨.epoch, 0, "p"⟩ (lonePool "")
            (Journal.records taglessJournal), l.address = .v6 3) ↔
        ∃ r, IsLatest (Journal.records taglessJournal) r ∧
          r.address = .v6 3 ∧ (activeIn "").states.admits r.state ∧
          ∀ pool ∈ (activeIn "").pool, r.attributes.get? "p" = some pool) := by
  have hpool : ∀ pool ∈ (activeIn "").pool, (lonePool "").hasPool pool := by decide
  have hrecords : Journal.records taglessJournal = [.bare (.v6 3) .active] := by decide +kernel
  refine ⟨hpool, ?_⟩
  rw [hrecords]
  intro hiff
  have hlatest : IsLatest [.bare (.v6 3) .active] (.bare (.v6 3) .active) :=
    ⟨[], [], rfl, List.forall_mem_nil _, List.forall_mem_nil _⟩
  have hlisted := (mem_currentRows_iff (v := ⟨.epoch, 0, "p"⟩) hpool _).2
    ⟨_, hlatest, by decide, rfl⟩
  obtain ⟨r, hr, -, -, hvalue⟩ := hiff.1 ⟨_, hlisted, rfl⟩
  rw [List.mem_singleton.1 hr.mem] at hvalue
  cases hvalue "" rfl

end LeaseQuery

end DhcpLeases
