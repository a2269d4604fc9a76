import DhcpLeases.Lease.Record
import Std.Data.TreeMap.Lemmas

namespace DhcpLeases

def Address.Precedes : Address → Address → Prop
  | .v4 a, .v4 b => a.toNat < b.toNat
  | .v4 _, .v6 _ => True
  | .v6 _, .v4 _ => False
  | .v6 a, .v6 b => a.toNat < b.toNat

theorem Address.compare_eq_lt_iff (a b : Address) : compare a b = .lt ↔ a.Precedes b := by
  have hrank : compare a b = .lt ↔ a.rank < b.rank := Nat.compare_eq_lt
  rw [hrank]
  cases a with
  | v4 a =>
    cases b with
    | v4 b => exact Iff.rfl
    | v6 b =>
      have ha := a.isLt
      simp only [rank, Precedes, iff_true]
      omega
  | v6 a =>
    cases b with
    | v4 b =>
      have hb := b.isLt
      simp only [rank, Precedes, iff_false]
      omega
    | v6 b => exact Nat.add_lt_add_iff_left

/-- No record of the address begins later, and none that begins with it stands behind it. -/
def IsLatest (rs : List LeaseRecord) (r : LeaseRecord) : Prop :=
  ∃ before after, rs = before ++ r :: after ∧
    (∀ q ∈ before, q.address = r.address → (compare q.start r.start).isLE) ∧
    ∀ q ∈ after, q.address = r.address → compare q.start r.start = .lt

variable {rs seen : List LeaseRecord} {r x : LeaseRecord}

theorem IsLatest.mem (h : IsLatest rs r) : r ∈ rs := by
  obtain ⟨before, after, hrs, -, -⟩ := h
  rw [hrs]
  exact List.mem_append_right _ List.mem_cons_self

theorem IsLatest.isLE (h : IsLatest rs r) {q : LeaseRecord} (hq : q ∈ rs)
    (ha : q.address = r.address) : (compare q.start r.start).isLE := by
  obtain ⟨before, after, hrs, hbefore, hafter⟩ := h
  rw [hrs, List.mem_append, List.mem_cons] at hq
  rcases hq with hq | hq | hq
  · exact hbefore q hq ha
  · rw [hq, Std.ReflOrd.compare_self]
    rfl
  · rw [hafter q hq ha]
    rfl

theorem IsLatest.append (h : IsLatest seen r) {more : List LeaseRecord}
    (hmore : ∀ q ∈ more, q.address = r.address → compare q.start r.start = .lt) :
    IsLatest (seen ++ more) r := by
  obtain ⟨before, after, hseen, hbefore, hafter⟩ := h
  refine ⟨before, after ++ more, ?_, hbefore, ?_⟩
  · rw [hseen, List.append_assoc, List.cons_append]
  · intro q hq
    rcases List.mem_append.1 hq with hq | hq
    · exact hafter q hq
    · exact hmore q hq

theorem isLatest_concat
    (h : ∀ q ∈ seen, q.address = x.address → (compare q.start x.start).isLE) :
    IsLatest (seen ++ [x]) x :=
  ⟨seen, [], rfl, h, fun _ hq => nomatch hq⟩

theorem IsLatest.unique (h : IsLatest rs r) (h' : IsLatest rs x) (ha : r.address = x.address) :
    r = x := by
  obtain ⟨before, after, hrs, hbefore, hafter⟩ := h
  obtain ⟨before', after', hrs', hbefore', hafter'⟩ := h'
  rw [hrs] at hrs'
  rcases List.append_eq_append_iff.1 hrs' with ⟨mid, hb, hmid⟩ | ⟨mid, hb, hmid⟩
  · cases mid with
    | nil => exact (List.cons.inj hmid).1
    | cons y mid =>
      obtain ⟨rfl, rfl⟩ := List.cons.inj hmid
      have hle := hbefore' r (by rw [hb]; simp) ha
      have hlt := hafter x (by simp) ha.symm
      rw [Std.OrientedCmp.gt_of_lt hlt] at hle
      cases hle
  · cases mid with
    | nil => exact (List.cons.inj hmid).1.symm
    | cons y mid =>
      obtain ⟨rfl, rfl⟩ := List.cons.inj hmid
      have hle := hbefore x (by rw [hb]; simp) ha.symm
      have hlt := hafter' r (by simp) ha
      rw [Std.OrientedCmp.gt_of_lt hlt] at hle
      cases hle

/-- What a map keeps: records of their addresses that pass a test, and one for every address seen. -/
structure Standing.Keeps (m : Standing) (test : LeaseRecord → Prop) (seen : List LeaseRecord) :
    Prop where
  sound : ∀ {a r}, m[a]? = some r → r.address = a ∧ test r
  covers : ∀ q ∈ seen, ∃ r, m[q.address]? = some r

theorem Standing.keeps_empty (test : LeaseRecord → Prop) : Keeps ∅ test [] where
  sound h := by simp at h
  covers q hq := nomatch hq

theorem Standing.getElem?_insert_record (m : Standing) (x : LeaseRecord) (a : Address) :
    (m.insert x.address x)[a]? = if x.address = a then some x else m[a]? := by
  simp only [Std.TreeMap.getElem?_insert, Std.LawfulEqCmp.compare_eq_iff_eq]

theorem Standing.getElem?_enter (m : Standing) (x : LeaseRecord) (a : Address) :
    (m.enter x)[a]? =
      if x.address = a then
        match m[a]? with
        | none => some x
        | some earlier => if x.supersedes earlier then some x else some earlier
      else m[a]? := by
  unfold enter
  by_cases ha : x.address = a
  · subst ha
    cases he : m[x.address]? with
    | none => simp only [getElem?_insert_record, if_true]
    | some earlier =>
      by_cases hs : x.supersedes earlier = true
      · simp only [hs, if_true, getElem?_insert_record]
      · simp only [hs, if_true, Bool.false_eq_true, if_false, he]
  · cases he : m[x.address]? with
    | none => simp only [getElem?_insert_record, ha, if_false]
    | some earlier =>
      by_cases hs : x.supersedes earlier = true
      · simp only [hs, if_true, getElem?_insert_record, ha, if_false]
      · simp only [hs, Bool.false_eq_true, if_false, ha]

theorem not_supersedes {x earlier : LeaseRecord} (h : ¬x.supersedes earlier = true) :
    compare x.start earlier.start = .lt := by
  unfold LeaseRecord.supersedes at h
  cases hc : compare x.start earlier.start with
  | lt => rfl
  | eq => simp [hc] at h
  | gt => simp [hc] at h

/-- Entering one more record keeps the latest of all records seen. -/
theorem Standing.Keeps.enter {m : Standing} (h : m.Keeps (IsLatest seen) seen) (x : LeaseRecord) :
    (m.enter x).Keeps (IsLatest (seen ++ [x])) (seen ++ [x]) where
  sound {a r} hr := by
    rw [getElem?_enter] at hr
    by_cases ha : x.address = a
    · rw [if_pos ha] at hr
      cases he : m[a]? with
      | none =>
        rw [he] at hr
        cases hr
        refine ⟨ha, isLatest_concat fun q hq hqa => ?_⟩
        obtain ⟨r, hr⟩ := h.covers q hq
        rw [hqa, ha, he] at hr
        cases hr
      | some earlier =>
        obtain ⟨hea, hlatest⟩ := h.sound he
        rw [he] at hr
        by_cases hs : x.supersedes earlier = true
        · simp only [hs, if_true] at hr
          cases hr
          refine ⟨ha, isLatest_concat fun q hq hqa => ?_⟩
          have hle := hlatest.isLE hq (hqa.trans (ha.trans hea.symm))
          exact Std.TransCmp.isLE_trans hle (Std.OrientedCmp.isGE_iff_isLE.1 hs)
        · simp only [hs, Bool.false_eq_true, if_false] at hr
          cases hr
          refine ⟨hea, hlatest.append fun q hq _ => ?_⟩
          rw [List.mem_singleton.1 hq]
          exact not_supersedes hs
    · rw [if_neg ha] at hr
      obtain ⟨hra, hlatest⟩ := h.sound hr
      refine ⟨hra, hlatest.append fun q hq hqa => ?_⟩
      rw [List.mem_singleton.1 hq] at hqa
      exact absurd (hqa.trans hra) ha
  covers q hq := by
    rw [getElem?_enter]
    by_cases ha : x.address = q.address
    · rw [if_pos ha]
      split
      · exact ⟨x, rfl⟩
      · split
        · exact ⟨x, rfl⟩
        · exact ⟨_, rfl⟩
    · rw [if_neg ha]
      rcases List.mem_append.1 hq with hq | hq
      · exact h.covers q hq
      · exact absurd (congrArg _ (List.mem_singleton.1 hq).symm) ha

theorem Standing.Keeps.foldl_enter {m : Standing} (h : m.Keeps (IsLatest seen) seen)
    (more : List LeaseRecord) :
    (more.foldl Standing.enter m).Keeps (IsLatest (seen ++ more)) (seen ++ more) := by
  induction more generalizing m seen with
  | nil => rw [List.append_nil]; exact h
  | cons x more ih =>
    have hx := ih (h.enter x)
    rw [List.append_assoc] at hx
    exact hx

theorem Standing.keeps_latest (rs : List LeaseRecord) :
    (rs.foldl Standing.enter ∅).Keeps (IsLatest rs) rs :=
  (keeps_empty (IsLatest [])).foldl_enter rs

def LeaseRecord.startsBy (a b : LeaseRecord) : Bool :=
  (compare a.start b.start).isLE

/-- The records from the earliest start to the latest, a missing start before any; records that begin
together stay in their order. -/
def sortedByStart (rs : List LeaseRecord) : List LeaseRecord :=
  rs.mergeSort LeaseRecord.startsBy

def Standing.overwrite (m : Standing) (r : LeaseRecord) : Standing :=
  m.insert r.address r

def lastWritten (rs : List LeaseRecord) : List LeaseRecord :=
  (rs.foldl Standing.overwrite (∅ : Standing)).values

def IsLast (rs : List LeaseRecord) (r : LeaseRecord) : Prop :=
  ∃ before after, rs = before ++ r :: after ∧ ∀ q ∈ after, q.address ≠ r.address

theorem Standing.Keeps.overwrite {m : Standing} (h : m.Keeps (IsLast seen) seen) (x : LeaseRecord) :
    (m.overwrite x).Keeps (IsLast (seen ++ [x])) (seen ++ [x]) where
  sound {a r} hr := by
    rw [Standing.overwrite, getElem?_insert_record] at hr
    by_cases ha : x.address = a
    · rw [if_pos ha] at hr
      cases hr
      exact ⟨ha, seen, [], rfl, fun _ hq => nomatch hq⟩
    · rw [if_neg ha] at hr
      obtain ⟨hra, before, after, hseen, hafter⟩ := h.sound hr
      refine ⟨hra, before, after ++ [x], ?_, ?_⟩
      · rw [hseen, List.append_assoc, List.cons_append]
      · intro q hq
        rcases List.mem_append.1 hq with hq | hq
        · exact hafter q hq
        · rw [List.mem_singleton.1 hq, hra]
          exact ha
  covers q hq := by
    rw [Standing.overwrite, getElem?_insert_record]
    by_cases ha : x.address = q.address
    · exact ⟨x, if_pos ha⟩
    · rw [if_neg ha]
      rcases List.mem_append.1 hq with hq | hq
      · exact h.covers q hq
      · exact absurd (congrArg _ (List.mem_singleton.1 hq).symm) ha

theorem Standing.Keeps.foldl_overwrite {m : Standing} (h : m.Keeps (IsLast seen) seen)
    (more : List LeaseRecord) :
    (more.foldl Standing.overwrite m).Keeps (IsLast (seen ++ more)) (seen ++ more) := by
  induction more generalizing m seen with
  | nil => rw [List.append_nil]; exact h
  | cons x more ih =>
    have hx := ih (h.overwrite x)
    rw [List.append_assoc] at hx
    exact hx

theorem sortedByStart_perm (rs : List LeaseRecord) : (sortedByStart rs).Perm rs :=
  List.mergeSort_perm rs _

theorem startsBy_trans (a b c : LeaseRecord) (hab : a.startsBy b) (hbc : b.startsBy c) :
    a.startsBy c :=
  Std.TransCmp.isLE_trans hab hbc

theorem startsBy_total (a b : LeaseRecord) : a.startsBy b || b.startsBy a := by
  unfold LeaseRecord.startsBy
  cases h : compare a.start b.start with
  | lt | eq => rfl
  | gt => rw [Std.OrientedCmp.lt_of_gt h]; rfl

theorem sortedByStart_pairwise (rs : List LeaseRecord) :
    (sortedByStart rs).Pairwise fun a b => a.startsBy b :=
  List.pairwise_mergeSort startsBy_trans startsBy_total rs

/-- Sorting leaves the records of one start as they were. -/
theorem filter_sortedByStart (rs : List LeaseRecord) (start : Option Time.Instant) :
    (sortedByStart rs).filter (·.start = start) = rs.filter (·.start = start) := by
  have hpairwise : (rs.filter (·.start = start)).Pairwise fun a b => a.startsBy b := by
    apply List.pairwise_of_forall_mem_list
    intro a ha b hb
    have has := of_decide_eq_true (List.mem_filter.1 ha).2
    have hbs := of_decide_eq_true (List.mem_filter.1 hb).2
    rw [LeaseRecord.startsBy, has, hbs]
    exact Std.ReflOrd.isLE_rfl
  have hsub := List.sublist_mergeSort startsBy_trans startsBy_total hpairwise List.filter_sublist
  have hsub' := hsub.filter (·.start = start)
  rw [List.filter_filter] at hsub'
  simp only [Bool.and_self] at hsub'
  have hlength := ((sortedByStart_perm rs).filter (·.start = start)).length_eq
  exact (hsub'.eq_of_length hlength.symm).symm

/-- The last record of an address in the order of starts is the latest in the journal: of the records
that begin with it, none stood behind it before sorting. -/
theorem IsLast.isLatest (h : IsLast (sortedByStart rs) r) : IsLatest rs r := by
  obtain ⟨before, after, hsorted, hafter⟩ := h
  have hle : ∀ q ∈ rs, q.address = r.address → (compare q.start r.start).isLE := by
    intro q hq ha
    have hq' := (sortedByStart_perm rs).mem_iff.2 hq
    have hpairwise := sortedByStart_pairwise rs
    rw [hsorted] at hq' hpairwise
    rcases List.mem_append.1 hq' with hq' | hq'
    · exact (List.pairwise_append.1 hpairwise).2.2 q hq' r List.mem_cons_self
    · rcases List.mem_cons.1 hq' with hq' | hq'
      · rw [hq']
        exact Std.ReflOrd.isLE_rfl
      · exact absurd ha (hafter q hq')
  have hsame := filter_sortedByStart rs r.start
  rw [hsorted, List.filter_append, List.filter_cons_of_pos (by simp)] at hsame
  obtain ⟨front, back, hrs, -, hback⟩ := List.filter_eq_append_iff.1 hsame.symm
  obtain ⟨between, behind, hback', -, -, hbehind⟩ := List.filter_eq_cons_iff.1 hback
  rw [hback', ← List.append_assoc] at hrs
  refine ⟨front ++ between, behind, hrs, ?_, ?_⟩
  · intro q hq ha
    exact hle q (by rw [hrs]; exact List.mem_append_left _ hq) ha
  · intro q hq ha
    have hqle := hle q (by rw [hrs]; simp [hq]) ha
    cases hc : compare q.start r.start with
    | lt => rfl
    | eq =>
      have hstart := Std.LawfulEqOrd.eq_of_compare hc
      have hmem : q ∈ behind.filter (·.start = r.start) := by simp [hq, hstart]
      rw [hbehind] at hmem
      exact absurd ha (hafter q (List.mem_filter.1 hmem).1)
    | gt => rw [hc] at hqle; cases hqle

theorem Standing.keeps_lastWritten (rs : List LeaseRecord) :
    ((sortedByStart rs).foldl Standing.overwrite ∅).Keeps (IsLatest rs) rs where
  sound hr := by
    have h := (keeps_empty (IsLast [])).foldl_overwrite (sortedByStart rs)
    exact (h.sound hr).imp_right IsLast.isLatest
  covers q hq := by
    have h := (keeps_empty (IsLast [])).foldl_overwrite (sortedByStart rs)
    exact h.covers q ((sortedByStart_perm rs).mem_iff.2 hq)

theorem Standing.Keeps.getElem?_eq {m m' : Standing} (h : m.Keeps (IsLatest rs) rs)
    (h' : m'.Keeps (IsLatest rs) rs) (a : Address) : m[a]? = m'[a]? := by
  cases hr : m[a]? with
  | some r =>
    obtain ⟨ha, hlatest⟩ := h.sound hr
    obtain ⟨r', hr'⟩ := h'.covers r hlatest.mem
    rw [ha] at hr'
    obtain ⟨ha', hlatest'⟩ := h'.sound hr'
    rw [hr', hlatest.unique hlatest' (ha.trans ha'.symm)]
  | none =>
    cases hr' : m'[a]? with
    | none => rfl
    | some r' =>
      obtain ⟨ha', hlatest'⟩ := h'.sound hr'
      obtain ⟨r, hm⟩ := h.covers r' hlatest'.mem
      rw [ha', hr] at hm
      cases hm

theorem latest_eq_lastWritten (rs : List LeaseRecord) :
    latest rs = lastWritten (sortedByStart rs) := by
  apply Std.TreeMap.Equiv.values_eq
  apply Std.TreeMap.Equiv.of_forall_constGet?_eq
  exact (Standing.keeps_latest rs).getElem?_eq (Standing.keeps_lastWritten rs)

theorem Standing.values_eq_map_toList (m : Standing) : m.values = m.toList.map Prod.snd := by
  have h : m.values = m.foldr (fun _ r rs => r :: rs) [] := rfl
  rw [h, Std.TreeMap.foldr_eq_foldr_toList, List.map_eq_foldr]

theorem Standing.mem_values_iff (m : Standing) (r : LeaseRecord) :
    r ∈ m.values ↔ ∃ a : Address, m[a]? = some r := by
  rw [values_eq_map_toList, List.mem_map]
  constructor
  · rintro ⟨⟨a, r⟩, hmem, rfl⟩
    exact ⟨a, Std.TreeMap.mem_toList_iff_getElem?_eq_some.1 hmem⟩
  · rintro ⟨a, ha⟩
    exact ⟨(a, r), Std.TreeMap.mem_toList_iff_getElem?_eq_some.2 ha, rfl⟩

theorem Standing.Keeps.values_pairwise {m : Standing} {test : LeaseRecord → Prop}
    (h : m.Keeps test rs) : m.values.Pairwise fun r q => r.address.Precedes q.address := by
  rw [values_eq_map_toList, List.pairwise_map]
  apply Std.TreeMap.ordered_keys_toList.imp_of_mem
  intro p q hp hq hlt
  have hp' := (h.sound (Std.TreeMap.mem_toList_iff_getElem?_eq_some.1 hp)).1
  have hq' := (h.sound (Std.TreeMap.mem_toList_iff_getElem?_eq_some.1 hq)).1
  rw [hp', hq', ← Address.compare_eq_lt_iff]
  exact hlt

theorem mem_latest_isLatest (h : r ∈ latest rs) : IsLatest rs r := by
  obtain ⟨a, ha⟩ := (Standing.mem_values_iff _ r).1 h
  exact ((Standing.keeps_latest rs).sound ha).2

theorem exists_mem_latest_iff (rs : List LeaseRecord) (a : Address) :
    (∃ r ∈ latest rs, r.address = a) ↔ ∃ r ∈ rs, r.address = a := by
  constructor
  · rintro ⟨r, hr, ha⟩
    exact ⟨r, (mem_latest_isLatest hr).mem, ha⟩
  · rintro ⟨q, hq, rfl⟩
    obtain ⟨r, hr⟩ := (Standing.keeps_latest rs).covers q hq
    exact ⟨r, (Standing.mem_values_iff _ r).2 ⟨_, hr⟩, ((Standing.keeps_latest rs).sound hr).1⟩

/-- The records that count are those that sorting by start and overwriting leave: one for each address,
in strictly ascending order, with the latest start and the last place among those of that start. -/
theorem latest_characterized (rs : List LeaseRecord) :
    latest rs = lastWritten (sortedByStart rs) ∧
      (latest rs).Pairwise (fun r q => r.address.Precedes q.address) ∧
      (∀ a, (∃ r ∈ latest rs, r.address = a) ↔ ∃ r ∈ rs, r.address = a) ∧
      ∀ r ∈ latest rs, IsLatest rs r :=
  ⟨latest_eq_lastWritten rs, (Standing.keeps_latest rs).values_pairwise, exists_mem_latest_iff rs,
    fun _ => mem_latest_isLatest⟩

end DhcpLeases
