import DhcpLeases.Proofs.Lease.CurrentListing

namespace DhcpLeases

namespace SortKey

variable {key : SortKey}

def IsAbsent : SortKey → ListedLease → Prop
  | ip, _ => False
  | hardwareAddress, l => l.hardwareAddress = none
  | state, _ => False
  | start, l => l.start = ""
  | stop, l => l.stop = ""
  | remaining, l => l.remaining = ""
  | pool, l => l.pool = ""
  | hostname, l => l.hostname = none

/-- A key compares any two leases, without contradiction, and what is absent comes first. -/
structure OrdersTotally (key : SortKey) : Prop where
  reversed : ∀ a b, key.compare b a = (key.compare a b).swap
  total : ∀ a b, (key.compare a b).isLE ∨ (key.compare b a).isLE
  transitive : ∀ a b c, (key.compare a b).isLE → (key.compare b c).isLE → (key.compare a c).isLE
  absent_first : ∀ a b, key.IsAbsent a → ¬key.IsAbsent b → key.compare a b = .lt

instance (key : SortKey) : Std.TransCmp key.compare := by
  cases key with
  | ip => exact inferInstanceAs (Std.TransCmp (compareOn ListedLease.address))
  | hardwareAddress => exact inferInstanceAs (Std.TransCmp (compareOn ListedLease.hardwareAddress))
  | state => exact inferInstanceAs (Std.TransCmp (compareOn fun l : ListedLease => l.state.name))
  | start => exact inferInstanceAs (Std.TransCmp (compareOn ListedLease.start))
  | stop => exact inferInstanceAs (Std.TransCmp (compareOn ListedLease.stop))
  | remaining => exact inferInstanceAs (Std.TransCmp (compareOn ListedLease.remaining))
  | pool => exact inferInstanceAs (Std.TransCmp (compareOn ListedLease.pool))
  | hostname => exact inferInstanceAs (Std.TransCmp (compareOn ListedLease.hostname))

theorem compare_swap (a b : ListedLease) : key.compare b a = (key.compare a b).swap :=
  Std.OrientedCmp.eq_swap

theorem isLE_total (a b : ListedLease) :
    ((key.compare a b).isLE || (key.compare b a).isLE) = true := by
  rw [compare_swap a b]
  cases key.compare a b <;> rfl

theorem compare_empty {s : String} (h : s ≠ "") : Ord.compare "" s = .lt := by
  apply compareOfLessAndEq_eq_lt.2
  change [] < s.toList
  cases hs : s.toList with
  | nil => exact absurd (String.toList_eq_nil_iff.1 hs) h
  | cons c cs => exact List.nil_lt_cons c cs

theorem compare_none {s : Option String} (h : s ≠ none) : Ord.compare none s = .lt := by
  cases s with
  | none => exact absurd rfl h
  | some s => rfl

theorem compare_absent {a b : ListedLease} (ha : key.IsAbsent a) (hb : ¬key.IsAbsent b) :
    key.compare a b = .lt := by
  cases key with
  | ip => exact ha.elim
  | hardwareAddress => rw [compare, show a.hardwareAddress = none from ha, compare_none hb]
  | state => exact ha.elim
  | start => rw [compare, show a.start = "" from ha, compare_empty hb]
  | stop => rw [compare, show a.stop = "" from ha, compare_empty hb]
  | remaining => rw [compare, show a.remaining = "" from ha, compare_empty hb]
  | pool => rw [compare, show a.pool = "" from ha, compare_empty hb]
  | hostname => rw [compare, show a.hostname = none from ha, compare_none hb]

theorem sort_sort (key : SortKey) (leases : List ListedLease) :
    key.sort (key.sort leases) = key.sort leases :=
  List.mergeSort_of_pairwise <|
    List.pairwise_mergeSort (fun _ _ _ => Std.TransCmp.isLE_trans) isLE_total leases

theorem ordersTotally (key : SortKey) : key.OrdersTotally where
  reversed := compare_swap
  total a b := Bool.or_eq_true _ _ ▸ isLE_total a b
  transitive _ _ _ := Std.TransCmp.isLE_trans
  absent_first _ _ := compare_absent

end SortKey

section

variable {α : Type} {le : α → α → Bool} {R : α → α → Prop} {l : List α}

theorem zipIdx_ascending (l : List α) : l.zipIdx.Pairwise fun x y => x.2 < y.2 := by
  rw [← List.pairwise_map, List.zipIdx_map_snd]
  exact List.pairwise_lt_range'

theorem zipIdx_pairwise (h : l.Pairwise R) {a b : α} {i j : Nat} (ha : (a, i) ∈ l.zipIdx)
    (hb : (b, j) ∈ l.zipIdx) (hij : i < j) : R a b := by
  obtain ⟨hi, ha⟩ := List.mem_zipIdx' ha
  obtain ⟨hj, hb⟩ := List.mem_zipIdx' hb
  rw [ha, hb]
  exact List.pairwise_iff_getElem.1 h i j hi hj hij

/-- Sorting keeps what holds between earlier and later entries among those that the order does not tell
apart. -/
theorem pairwise_mergeSort_ties (htrans : ∀ a b c, le a b → le b c → le a c)
    (htotal : ∀ a b, le a b || le b a) (h : l.Pairwise R) :
    (l.mergeSort le).Pairwise fun a b => le a b ∧ (le b a → R a b) := by
  have hperm := List.mergeSort_perm l.zipIdx (List.zipIdxLE le)
  have hsorted := List.pairwise_mergeSort (List.zipIdxLE_trans htrans) (List.zipIdxLE_total htotal)
    l.zipIdx
  have hdistinct := hperm.symm.pairwise ((zipIdx_ascending l).imp Nat.ne_of_lt) fun h => h.symm
  rw [← List.mergeSort_zipIdx, List.pairwise_map]
  apply (hsorted.and hdistinct).imp_of_mem
  rintro ⟨a, i⟩ ⟨b, j⟩ ha hb ⟨hle, hne⟩
  simp only [List.zipIdxLE] at hle
  by_cases hab : le a b = true
  · refine ⟨hab, fun hba => ?_⟩
    rw [if_pos hab, if_pos hba, decide_eq_true_eq] at hle
    exact zipIdx_pairwise h (hperm.mem_iff.1 ha) (hperm.mem_iff.1 hb) (Nat.lt_of_le_of_ne hle hne)
  · rw [if_neg hab] at hle
    cases hle

end

namespace SortKey

def sortPlaced (key : SortKey) (placed : List (ListedLease × Nat)) : List (ListedLease × Nat) :=
  placed.mergeSort fun p r => (key.compare p.1 r.1).isLE

variable {key : SortKey} {placed : List (ListedLease × Nat)}

theorem sortPlaced_perm (key : SortKey) (placed : List (ListedLease × Nat)) :
    (key.sortPlaced placed).Perm placed :=
  List.mergeSort_perm placed _

theorem map_sortPlaced : (key.sortPlaced placed).map Prod.fst = key.sort (placed.map Prod.fst) :=
  List.map_mergeSort fun _ _ _ _ => rfl

theorem sortPlaced_pairwise {cmp : ListedLease × Nat → ListedLease × Nat → Ordering}
    (h : placed.Pairwise fun p r => cmp p r = .lt) :
    (key.sortPlaced placed).Pairwise fun p r => (key.compare p.1 r.1).then (cmp p r) = .lt := by
  apply (pairwise_mergeSort_ties (fun p q r => Std.TransCmp.isLE_trans)
    (fun p r => isLE_total p.1 r.1) h).imp
  rintro p r ⟨hle, htie⟩
  rw [compare_swap p.1 r.1] at htie
  cases hcompare : key.compare p.1 r.1 with
  | lt => rfl
  | eq =>
    rw [hcompare] at htie
    exact htie rfl
  | gt =>
    rw [hcompare] at hle
    cases hle

end SortKey

namespace LeaseQuery

variable {q q₁ q₂ : LeaseQuery} {c : Catalog} {leases rows : List ListedLease}

/-- Of two leases with their positions, which stands first in the rows of one query run on those of
another: the order of the second decides, then that of the first, then the positions. -/
def comparePlaced (q₁ q₂ : LeaseQuery) (p r : ListedLease × Nat) : Ordering :=
  (q₂.order.compare p.1 r.1).then
    ((q₁.order.compare p.1 r.1).then (Ord.compare p.2 r.2))

/-- The rows are the leases that two queries select, each as often as it stands among them, by the order of
the second query, among its ties by that of the first, and among ties of both by position. -/
def SelectsBoth (q₁ q₂ : LeaseQuery) (leases rows : List ListedLease) : Prop :=
  ∃ placed : List (ListedLease × Nat),
    placed.Perm (leases.zipIdx.filter fun p => q₁.selects p.1 && q₂.selects p.1) ∧
      (placed.Pairwise fun p r => q₁.comparePlaced q₂ p r = .lt) ∧ placed.map Prod.fst = rows

theorem comparePlaced_swap (p r : ListedLease × Nat) :
    q₁.comparePlaced q₂ r p = (q₁.comparePlaced q₂ p r).swap := by
  rw [comparePlaced, comparePlaced, Ordering.swap_then, Ordering.swap_then,
    SortKey.compare_swap p.1 r.1, SortKey.compare_swap p.1 r.1, Std.OrientedOrd.eq_swap (a := r.2)]

theorem SelectsBoth.unique {rows' : List ListedLease} (h : q₁.SelectsBoth q₂ leases rows)
    (h' : q₁.SelectsBoth q₂ leases rows') : rows = rows' := by
  obtain ⟨placed, hperm, hsorted, rfl⟩ := h
  obtain ⟨placed', hperm', hsorted', rfl⟩ := h'
  apply congrArg (List.map Prod.fst)
  apply List.Perm.eq_of_pairwise _ hsorted hsorted' (hperm.trans hperm'.symm)
  intro p r _ _ hpr hrp
  rw [comparePlaced_swap p r, hpr] at hrp
  cases hrp

theorem map_filter_placed (q : LeaseQuery) (placed : List (ListedLease × Nat)) :
    (placed.filter fun p => q.selects p.1).map Prod.fst = (placed.map Prod.fst).filter q.selects := by
  rw [List.filter_map]
  rfl

/-- The positions go along through both queries, and each sorting refines the order before it. -/
theorem selectsBoth_sort (q₁ q₂ : LeaseQuery) (leases : List ListedLease) :
    q₁.SelectsBoth q₂ leases
      (q₂.order.sort ((q₁.order.sort (leases.filter q₁.selects)).filter q₂.selects)) := by
  let placed₁ := leases.zipIdx.filter fun p => q₁.selects p.1
  let placed₂ := (q₁.order.sortPlaced placed₁).filter fun p => q₂.selects p.1
  have hpositions : placed₁.Pairwise fun p r => Ord.compare p.2 r.2 = .lt :=
    ((zipIdx_ascending leases).imp Nat.compare_eq_lt.2).filter _
  refine ⟨q₂.order.sortPlaced placed₂, ?_, ?_, ?_⟩
  · have hfilter := (q₁.order.sortPlaced_perm placed₁).filter fun p => q₂.selects p.1
    apply ((q₂.order.sortPlaced_perm placed₂).trans hfilter).trans
    rw [List.filter_filter]
    exact List.Perm.of_eq (List.filter_congr fun p _ => Bool.and_comm _ _)
  · exact SortKey.sortPlaced_pairwise ((SortKey.sortPlaced_pairwise hpositions).filter _)
  · rw [SortKey.map_sortPlaced, map_filter_placed, SortKey.map_sortPlaced, map_filter_placed,
      List.zipIdx_map_fst]

theorem run_rows (q : LeaseQuery) (c : Catalog) (leases : List ListedLease) :
    q.run (q.run leases c).value.rows c = q.run leases c := by
  cases hmissing : q.missingPool? c with
  | some pool => rw [run_of_missing hmissing, run_of_missing hmissing]
  | none =>
    have hselected : (q.order.sort (leases.filter q.selects)).filter q.selects =
        q.order.sort (leases.filter q.selects) := by
      rw [List.filter_eq_self]
      intro l hl
      exact (List.mem_filter.1 ((q.order.sort_perm _).mem_iff.1 hl)).2
    simp only [run_of_known hmissing, Report.ofRows, hselected, q.order.sort_sort]

/-- A query run on the rows of another one shows what both select, in its own order and among ties in that
of the other. -/
theorem run_run (q₁ q₂ : LeaseQuery) (c : Catalog) (leases : List ListedLease)
    (h₁ : ∀ pool ∈ q₁.pool, c.hasPool pool) (h₂ : ∀ pool ∈ q₂.pool, c.hasPool pool) :
    (∃ rows, (q₂.run (q₁.run leases c).value.rows c).value = ⟨rows, []⟩ ∧
      ∀ rows', q₁.SelectsBoth q₂ leases rows' ↔ rows' = rows) ∧
    (∀ q : LeaseQuery, q.run (q.run leases c).value.rows c = q.run leases c) ∧
    ∀ key : SortKey, key.OrdersTotally := by
  refine ⟨?_, fun q => q.run_rows c leases, SortKey.ordersTotally⟩
  have hboth := selectsBoth_sort q₁ q₂ leases
  rw [run_of_known (missingPool?_eq_none h₁), run_of_known (missingPool?_eq_none h₂)]
  refine ⟨_, rfl, fun rows' => ⟨fun h => h.unique hboth, ?_⟩⟩
  rintro rfl
  exact hboth

def tiedLeases : List ListedLease :=
  [(1, .free, "x", some "b"), (2, .active, "x", some "b"), (3, .active, "y", none),
    (4, .active, "x", none), (5, .expired, "x", none), (6, .active, "x", some "b"),
    (2, .active, "x", some "b")].map fun (number, state, pool, hostname) =>
      { address := .v4 number, hardwareAddress := none, state, start := "", stop := "",
        remaining := "", pool, hostname, tstp := "", tsfp := "", atsfp := "", cltt := "" }

def byHostname : LeaseQuery :=
  ⟨.all, none, .hostname⟩

def byState : LeaseQuery :=
  ⟨.only [.active, .free], some "x", .state⟩

theorem run_run_tiedLeases :
    (∀ pool ∈ byHostname.pool, (lonePool "x").hasPool pool) ∧
    (∀ pool ∈ byState.pool, (lonePool "x").hasPool pool) ∧
    (byState.run (byHostname.run tiedLeases (lonePool "x")).value.rows (lonePool "x")).value.rows.map
      (·.address) = [.v4 4, .v4 2, .v4 6, .v4 2, .v4 1] := by
  have h₁ : ∀ pool ∈ byHostname.pool, (lonePool "x").hasPool pool := by decide
  have h₂ : ∀ pool ∈ byState.pool, (lonePool "x").hasPool pool := by decide
  obtain ⟨⟨rows, hrun, hrows⟩, -⟩ := run_run byHostname byState (lonePool "x") tiedLeases h₁ h₂
  let placed := [3, 1, 5, 6, 0].filterMap fun i => tiedLeases[i]?.map (·, i)
  have hplaced : byHostname.SelectsBoth byState tiedLeases (placed.map Prod.fst) :=
    ⟨placed, by decide, by decide, rfl⟩
  refine ⟨h₁, h₂, ?_⟩
  rw [hrun, ← (hrows _).1 hplaced]
  rfl

end LeaseQuery

end DhcpLeases
