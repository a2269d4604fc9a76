import DhcpLeases.Proofs.Pool.CountedRanges

namespace DhcpLeases

def AddressRange.placed (a : Address) (r : AddressRange) : AddressRange :=
  ⟨r.name, a, a⟩

def Subnet.blank (u : Subnet) : Subnet :=
  ⟨u.name, u.ranges.map (.placed (.v4 0))⟩

/-- Where the range that is looked for is put. -/
def markBounds : Address × Address :=
  (.v4 1, .v4 1)

/-- A subnet with the range `r` marked, between others that are blank. -/
def Subnet.marked (name : String) (front : List AddressRange) (r : AddressRange)
    (back : List AddressRange) : Subnet :=
  ⟨name, front.map (.placed (.v4 0)) ++ r.placed (.v4 1) :: back.map (.placed (.v4 0))⟩

def SharedNetwork.marked (before : List Subnet) (u : Subnet) (after : List Subnet) : SharedNetwork :=
  ⟨"pool", before.map Subnet.blank ++ u :: after.map Subnet.blank⟩

def Settings.ofNetwork (n : SharedNetwork) : Settings :=
  { Settings.default with networks := [n] }

theorem AddressRange.hasSize_placed (a : BitVec 32) (r : AddressRange) :
    HasSize (r.placed (.v4 a)).bounds :=
  ⟨trivial, Nat.le_refl _⟩

theorem Subnet.mark_not_mem_blank (u : Subnet) : markBounds ∉ u.blank.bounds := by
  intro h
  obtain ⟨r, hr, hb⟩ := List.mem_map.1 h
  obtain ⟨q, -, rfl⟩ := List.mem_map.1 hr
  cases hb

theorem Subnet.hasSize_blank (u : Subnet) : ∀ q ∈ u.blank.ranges, HasSize q.bounds := by
  intro q hq
  obtain ⟨p, -, rfl⟩ := List.mem_map.1 hq
  exact p.hasSize_placed 0

theorem mark_not_mem_blanks (us : List Subnet) :
    markBounds ∉ (us.map Subnet.blank).flatMap Subnet.bounds := by
  intro h
  obtain ⟨v, hv, hb⟩ := List.mem_flatMap.1 h
  obtain ⟨w, -, rfl⟩ := List.mem_map.1 hv
  exact w.mark_not_mem_blank hb

theorem mark_not_mem_placed (rs : List AddressRange) :
    markBounds ∉ (rs.map (.placed (.v4 0))).map AddressRange.bounds :=
  Subnet.mark_not_mem_blank ⟨"", rs⟩

variable {name : String} {before after : List Subnet} {front back : List AddressRange}
  {r : AddressRange}

theorem Subnet.count_marked :
    (Subnet.marked name front r back).bounds.count markBounds = 1 := by
  have hfront := List.count_eq_zero.2 (mark_not_mem_placed front)
  have hback := List.count_eq_zero.2 (mark_not_mem_placed back)
  rw [bounds, marked, List.map_append, List.map_cons, List.count_append, List.count_cons, hfront,
    hback]
  rfl

theorem SharedNetwork.count_marked :
    (SharedNetwork.marked before (.marked name front r back) after).bounds.count markBounds = 1 := by
  have hbefore := List.count_eq_zero.2 (mark_not_mem_blanks before)
  have hafter := List.count_eq_zero.2 (mark_not_mem_blanks after)
  rw [bounds, marked, List.flatMap_append, List.flatMap_cons, List.count_append, List.count_append,
    hbefore, hafter, Subnet.count_marked]

theorem Subnet.hasSize_marked : ∀ q ∈ (marked name front r back).ranges, HasSize q.bounds := by
  intro q hq
  rcases List.mem_append.1 hq with hq | hq
  · obtain ⟨p, -, rfl⟩ := List.mem_map.1 hq
    exact p.hasSize_placed 0
  · rcases List.mem_cons.1 hq with rfl | hq
    · exact r.hasSize_placed 1
    · obtain ⟨p, -, rfl⟩ := List.mem_map.1 hq
      exact p.hasSize_placed 0

theorem SharedNetwork.isSound_marked (before : List Subnet) (name : String)
    (front : List AddressRange) (r : AddressRange) (back : List AddressRange) (after : List Subnet) :
    (marked before (.marked name front r back) after).IsSound where
  named := by simp [marked]
  ranges u hu := by
    rcases List.mem_append.1 hu with hu | hu
    · obtain ⟨v, -, rfl⟩ := List.mem_map.1 hu
      exact v.hasSize_blank
    · rcases List.mem_cons.1 hu with rfl | hu
      · exact Subnet.hasSize_marked
      · obtain ⟨v, -, rfl⟩ := List.mem_map.1 hu
        exact v.hasSize_blank

theorem Settings.isSound_ofNetwork {n : SharedNetwork} (h : n.IsSound) : (ofNetwork n).IsSound where
  keyed := by simp [ofNetwork, Settings.default, defaultPoolKey]
  networks m hm := List.mem_singleton.1 hm ▸ h
  distinct := by simp [ofNetwork]

theorem Subnet.blank_of_mem_map {us : List Subnet} {u : Subnet} (h : u ∈ us.map blank) :
    markBounds ∉ u.reached := by
  obtain ⟨v, -, rfl⟩ := List.mem_map.1 h
  exact fun hmem => v.mark_not_mem_blank (reached_subset hmem)

/-- A subnet behind another one of its name is not reached. -/
theorem SharedNetwork.not_mem_reached_of_subnet {u v : Subnet} (hv : v ∈ before)
    (hname : v.name = u.name) : markBounds ∉ (marked before u after).reached := by
  intro h
  obtain ⟨name, w, hw, hmem⟩ := mem_reached h
  have hblank : w ∈ before.map Subnet.blank ∨ w ∈ after.map Subnet.blank :=
    find?_key_shadowed Subnet.name (List.mem_map_of_mem hv) hname hw
  rcases hblank with hb | hb
  · exact Subnet.blank_of_mem_map hb hmem
  · exact Subnet.blank_of_mem_map hb hmem

theorem Subnet.not_mem_reached_of_range {q : AddressRange} (hq : q ∈ front)
    (hname : q.name = r.name) : markBounds ∉ (marked name front r back).reached := by
  intro h
  obtain ⟨name', p, hp, hmem⟩ := mem_reached h
  have hplaced : (q.placed (.v4 0)).name = (r.placed (.v4 1)).name := hname
  have hblank : p ∈ front.map (.placed (.v4 0)) ∨ p ∈ back.map (.placed (.v4 0)) :=
    find?_key_shadowed AddressRange.name (List.mem_map_of_mem hq) hplaced hp
  rcases hblank with hb | hb
  · exact mark_not_mem_placed front (hmem ▸ List.mem_map_of_mem hb)
  · exact mark_not_mem_placed back (hmem ▸ List.mem_map_of_mem hb)

theorem SharedNetwork.not_mem_reached_of_range {q : AddressRange} (hq : q ∈ front)
    (hname : q.name = r.name) :
    markBounds ∉ (SharedNetwork.marked before (.marked name front r back) after).reached := by
  intro h
  obtain ⟨name', w, hw, hmem⟩ := mem_reached h
  rcases List.mem_append.1 (List.mem_of_find?_eq_some hw) with hb | hb
  · exact Subnet.blank_of_mem_map hb hmem
  · rcases List.mem_cons.1 hb with rfl | hb
    · exact Subnet.not_mem_reached_of_range hq hname hmem
    · exact Subnet.blank_of_mem_map hb hmem

theorem Subnet.mem_reached_marked (name : String) (r : AddressRange) (back : List AddressRange) :
    markBounds ∈ (marked name [] r back).reached := by
  apply List.mem_filterMap.2
  refine ⟨r.placed (.v4 1), List.mem_cons_self, ?_⟩
  rw [marked, List.map_nil, List.nil_append, List.find?_cons_of_pos (by simp)]
  rfl

theorem find?_blanks {u : Subnet} (after : List Subnet) (hbefore : ∀ v ∈ before, v.name ≠ u.name) :
    (before.map Subnet.blank ++ u :: after.map Subnet.blank).find? (·.name = u.name) = some u := by
  have hnone : (before.map Subnet.blank).find? (·.name = u.name) = none := by
    apply List.find?_eq_none.2
    intro w hw
    obtain ⟨v, hv, rfl⟩ := List.mem_map.1 hw
    have hne : v.blank.name ≠ u.name := hbefore v hv
    simpa using hne
  rw [List.find?_append, hnone, Option.none_or, List.find?_cons_of_pos (by simp)]

/-- The first range of a subnet in front of another one of its name is reached from both. -/
theorem SharedNetwork.two_le_count_reached (r : AddressRange) (back : List AddressRange) {v : Subnet}
    (hbefore : ∀ u ∈ before, u.name ≠ name)
    (hv : v ∈ after) (hname : v.name = name) :
    2 ≤ (SharedNetwork.marked before (.marked name [] r back) after).reached.count markBounds := by
  have hmark := Subnet.mem_reached_marked name r back
  generalize hu : Subnet.marked name [] r back = u at hmark ⊢
  obtain rfl : u.name = name := by
    rw [← hu]
    rfl
  have hfirst := find?_blanks after hbefore
  rw [reached, marked, List.flatMap_append, List.flatMap_cons, List.count_append, List.count_append]
  have hone : 1 ≤ u.reached.count markBounds := List.count_pos_iff.2 hmark
  have htwo : 1 ≤ ((after.map Subnet.blank).flatMap fun w =>
      ((((before.map Subnet.blank ++ u :: after.map Subnet.blank).find? (·.name = w.name)).map
        Subnet.reached).getD [])).count markBounds := by
    apply List.count_pos_iff.2
    apply List.mem_flatMap.2
    refine ⟨v.blank, List.mem_map_of_mem hv, ?_⟩
    have hvname : v.blank.name = u.name := hname
    rw [hvname, hfirst]
    exact hmark
  rw [hfirst]
  simp only [Option.map_some, Option.getD_some]
  omega

theorem SharedNetwork.rangeNames_marked {n : SharedNetwork} {before after : List Subnet} {u : Subnet}
    {front back : List AddressRange} {r : AddressRange} (hn : n.subnets = before ++ u :: after)
    (hu : u.ranges = front ++ r :: back) :
    (SharedNetwork.marked before (.marked u.name front r back) after).rangeNames = n.rangeNames := by
  simp [rangeNames, marked, Subnet.marked, Subnet.blank, AddressRange.placed, hn, hu,
    Function.comp_def]

theorem pairwise_of_splits {α : Type} {R : α → α → Prop} {l : List α}
    (h : ∀ front x back, l = front ++ x :: back → ∀ y ∈ front, R y x) : l.Pairwise R := by
  induction l with
  | nil => exact List.Pairwise.nil
  | cons a l ih =>
    apply List.pairwise_cons.2
    constructor
    · intro x hx
      obtain ⟨front, back, rfl⟩ := List.append_of_mem hx
      exact h (a :: front) x back rfl a List.mem_cons_self
    · apply ih
      intro front x back hl y hy
      exact h (a :: front) x back (by rw [hl]; rfl) y (List.mem_cons_of_mem _ hy)

/-- Wherever the mark is put in a network, it is reached exactly once. -/
def SharedNetwork.MarksOnce (n : SharedNetwork) : Prop :=
  ∀ before u after front r back, n.subnets = before ++ u :: after → u.ranges = front ++ r :: back →
    (marked before (.marked u.name front r back) after).reached.count markBounds = 1

namespace SharedNetwork

variable {n : SharedNetwork}

theorem marksOnce_of_countsOnce (h : ∀ m : SharedNetwork, m.IsSound → m.rangeNames = n.rangeNames →
    (Settings.ofNetwork m).CountsOnce m) : n.MarksOnce := by
  intro before u after front r back hn hu
  have hsound := isSound_marked before u.name front r back after
  have hperm := (h _ hsound (rangeNames_marked hn hu)).1
  rw [(Settings.isSound_ofNetwork hsound).catalog_reached List.mem_cons_self] at hperm
  rw [hperm.count_eq]
  exact count_marked

theorem MarksOnce.name_ne (h : n.MarksOnce) {u v : Subnet} (hn : n.subnets = before ++ u :: after)
    (hu : u.ranges ≠ []) (hv : v ∈ before) : v.name ≠ u.name := by
  intro hname
  obtain ⟨r, back, hr⟩ := List.exists_cons_of_ne_nil hu
  have hlost : markBounds ∉ (marked before (.marked u.name [] r back) after).reached :=
    not_mem_reached_of_subnet hv hname
  have hone := h before u after [] r back hn hr
  rw [List.count_eq_zero.2 hlost] at hone
  cases hone

theorem MarksOnce.nodup (h : n.MarksOnce) {u : Subnet} (hu : u ∈ n.subnets) :
    (u.ranges.map (·.name)).Nodup := by
  obtain ⟨before, after, hn⟩ := List.append_of_mem hu
  rw [List.nodup_iff_pairwise_ne, List.pairwise_map]
  apply pairwise_of_splits
  intro front r back hr q hq hname
  have hone := h before u after front r back hn hr
  rw [List.count_eq_zero.2 (not_mem_reached_of_range hq hname)] at hone
  cases hone

theorem MarksOnce.pairwise (h : n.MarksOnce) :
    n.subnets.Pairwise fun u v => u.name = v.name → u.ranges = [] ∧ v.ranges = [] := by
  apply pairwise_of_splits
  intro before v after hn u hu hname
  have hv : v.ranges = [] := by
    by_cases hv : v.ranges = []
    · exact hv
    · exact absurd hname (h.name_ne hn hv hu)
  obtain ⟨b₁, b₂, rfl⟩ := List.append_of_mem hu
  rw [List.append_assoc, List.cons_append] at hn
  have hur : u.ranges = [] := by
    by_cases hur : u.ranges = []
    · exact hur
    · obtain ⟨r, back, hr⟩ := List.exists_cons_of_ne_nil hur
      have hone := h b₁ u (b₂ ++ v :: after) [] r back hn hr
      have hmem : v ∈ b₂ ++ v :: after := List.mem_append_right b₂ List.mem_cons_self
      have htwo := two_le_count_reached r back (fun w hw => h.name_ne hn hur hw) hmem hname.symm
      rw [hone] at htwo
      omega
  exact ⟨hur, hv⟩

theorem MarksOnce.namesApart (h : n.MarksOnce) : NamesApart n.rangeNames := by
  constructor
  · intro p hp
    obtain ⟨u, hu, rfl⟩ := List.mem_map.1 hp
    exact h.nodup hu
  · rw [rangeNames, List.pairwise_map]
    apply h.pairwise.imp
    intro u v huv hname
    obtain ⟨hu, hv⟩ := huv hname
    exact ⟨List.map_eq_nil_iff.2 hu, List.map_eq_nil_iff.2 hv⟩

end SharedNetwork

/-- Ranges are counted once in all accepted settings with the names of a network exactly if these names
do not repeat: if some do, bounds can be chosen for which the pool is miscounted. -/
theorem namesApart_iff_countsOnce (n : SharedNetwork) :
    NamesApart n.rangeNames ↔
      ∀ (s : Settings) (m : SharedNetwork), s.validate = .ok () → m ∈ s.networks →
        m.rangeNames = n.rangeNames → s.CountsOnce m := by
  constructor
  · intro hapart s m hs hm hnames
    exact ((Settings.validate_eq_ok_iff s).1 hs).countsOnce hm (hnames ▸ hapart)
  · intro h
    apply SharedNetwork.MarksOnce.namesApart
    apply SharedNetwork.marksOnce_of_countsOnce
    intro m hm hnames
    have hs := (Settings.validate_eq_ok_iff _).2 (Settings.isSound_ofNetwork hm)
    exact h _ m hs List.mem_cons_self hnames

def repeatedRange : SharedNetwork :=
  ⟨"LAN", [⟨"192.0.2.0/24", [⟨"0", .v4 0xC000020A, .v4 0xC0000213⟩,
    ⟨"0", .v4 0xC000021E, .v4 0xC0000231⟩]⟩]⟩

/-- Accepted settings may count one range of a name twice and pass over the other. -/
theorem repeated_range_miscounted :
    ¬∀ (s : Settings) (n : SharedNetwork), s.validate = .ok () → n ∈ s.networks → s.CountsOnce n := by
  intro h
  have hs : (Settings.ofNetwork repeatedRange).validate = .ok () := by rfl
  obtain ⟨-, hcapacity⟩ := h _ repeatedRange hs List.mem_cons_self
  have htwenty : (poolCapacity (Settings.ofNetwork repeatedRange).catalog "LAN").value = .ok 20 := by
    rfl
  have hthirty : min (totalCount repeatedRange.bounds) maxCapacity = 30 := by decide
  rw [hthirty] at hcapacity
  exact absurd (htwenty.symm.trans hcapacity) (by simp)

end DhcpLeases
