import DhcpLeases.Proofs.Settings.Soundness

namespace DhcpLeases

/-- A range without a size, behind ranges and subnets that have none. -/
inductive SharedNetwork.FirstBadRange (n : SharedNetwork) : Flaw → Prop
  | range {us us' : List Subnet} {u : Subnet} {rs rs' : List AddressRange} {r : AddressRange}
      (subnets_eq : n.subnets = us ++ u :: us') (ranges_eq : u.ranges = rs ++ r :: rs')
      (before_subnet : ∀ v ∈ us, ∀ q ∈ v.ranges, HasSize q.bounds)
      (before_range : ∀ q ∈ rs, HasSize q.bounds) (bad : ¬HasSize r.bounds) :
      FirstBadRange n (.badRange r.name u.name n.name r.start r.stop)

/-- The first flaw of a network behind others with the names `seen`. -/
inductive SharedNetwork.FirstFlaw (seen : List String) (n : SharedNetwork) : Flaw → Prop
  | emptyName (h : n.name = "") : FirstFlaw seen n .emptyNetworkName
  | repeatedName (named : n.name ≠ "") (h : n.name ∈ seen) :
      FirstFlaw seen n (.repeatedNetwork n.name)
  | badRange {flaw : Flaw} (named : n.name ≠ "") (new : n.name ∉ seen) (h : n.FirstBadRange flaw) :
      FirstFlaw seen n flaw

inductive Settings.FirstFlaw (s : Settings) : Flaw → Prop
  | emptyPoolKey (h : s.poolKey = "") : FirstFlaw s .emptyPoolKey
  | network {before after : List SharedNetwork} {n : SharedNetwork} {flaw : Flaw}
      (keyed : s.poolKey ≠ "") (networks_eq : s.networks = before ++ n :: after)
      (sound : ∀ m ∈ before, m.IsSound) (distinct : (before.map (·.name)).Nodup)
      (h : n.FirstFlaw (before.map (·.name)) flaw) : FirstFlaw s flaw

namespace SharedNetwork

variable {n : SharedNetwork} {seen seen' : List String} {before rest : List SharedNetwork} {flaw : Flaw}

theorem badRange?_eq_some_iff : n.badRange? = some flaw ↔ n.FirstBadRange flaw := by
  rw [badRange?_eq]
  constructor
  · intro h
    obtain ⟨us, u, us', hsubnets, hu, hbefore⟩ := List.findSome?_eq_some_iff.1 h
    obtain ⟨rs, r, rs', hranges, hr, hbefore'⟩ := List.findSome?_eq_some_iff.1 hu
    obtain ⟨hbad, hflaw⟩ := Option.ite_none_left_eq_some.1 hr
    cases hflaw
    refine .range hsubnets hranges ?_ ?_ hbad
    · intro v hv q hq
      have hnone := List.findSome?_eq_none_iff.1 (hbefore v hv) q hq
      simpa using hnone
    · intro q hq
      simpa using hbefore' q hq
  · rintro ⟨hsubnets, hranges, hbefore, hbefore', hbad⟩
    refine List.findSome?_eq_some_iff.2 ⟨_, _, _, hsubnets, ?_, ?_⟩
    · exact List.findSome?_eq_some_iff.2 ⟨_, _, _, hranges, if_neg hbad, fun q hq => if_pos (hbefore' q hq)⟩
    · intro v hv
      exact List.findSome?_eq_none_iff.2 fun q hq => if_pos (hbefore v hv q hq)

def ownFlaw? (seen : List String) (n : SharedNetwork) : Option Flaw :=
  if n.name = "" then some .emptyNetworkName
  else if seen.contains n.name then some (.repeatedNetwork n.name)
  else n.badRange?

theorem flaw?_cons (seen : List String) (n : SharedNetwork) (ns : List SharedNetwork) :
    flaw? seen (n :: ns) = (n.ownFlaw? seen).or (flaw? (n.name :: seen) ns) := by
  rw [flaw?, ownFlaw?]
  split
  · rfl
  split
  · rfl
  · rfl

theorem ownFlaw?_eq_some_iff : n.ownFlaw? seen = some flaw ↔ n.FirstFlaw seen flaw := by
  unfold ownFlaw?
  by_cases hname : n.name = ""
  · rw [if_pos hname]
    constructor
    · intro h
      cases h
      exact .emptyName hname
    · intro h
      cases h with
      | emptyName => rfl
      | repeatedName named => exact absurd hname named
      | badRange named => exact absurd hname named
  rw [if_neg hname]
  by_cases hseen : n.name ∈ seen
  · rw [if_pos (List.contains_iff_mem.2 hseen)]
    constructor
    · intro h
      cases h
      exact .repeatedName hname hseen
    · intro h
      cases h with
      | emptyName h => exact absurd h hname
      | repeatedName => rfl
      | badRange _ new => exact absurd hseen new
  · rw [if_neg (mt List.contains_iff_mem.1 hseen), badRange?_eq_some_iff]
    constructor
    · exact .badRange hname hseen
    · intro h
      cases h with
      | emptyName h => exact absurd h hname
      | repeatedName _ h => exact absurd h hseen
      | badRange _ _ h => exact h

theorem FirstFlaw.congr (h : ∀ name, name ∈ seen ↔ name ∈ seen') (hflaw : n.FirstFlaw seen flaw) :
    n.FirstFlaw seen' flaw := by
  cases hflaw with
  | emptyName hname => exact .emptyName hname
  | repeatedName named hseen => exact .repeatedName named ((h _).1 hseen)
  | badRange named new hbad => exact .badRange named (mt (h _).2 new) hbad

theorem flaw?_append (h : flaw? seen before = none) (rest : List SharedNetwork) :
    flaw? seen (before ++ rest) = flaw? ((before.map (·.name)).reverse ++ seen) rest := by
  induction before generalizing seen with
  | nil => rfl
  | cons m before ih =>
    rw [flaw?_cons, Option.or_eq_none_iff] at h
    rw [List.cons_append, flaw?_cons, h.1, Option.none_or, ih h.2, List.map_cons, List.reverse_cons,
      List.append_assoc, List.singleton_append]

theorem exists_firstFlaw {ns : List SharedNetwork} (h : flaw? seen ns = some flaw) :
    ∃ before n after, ns = before ++ n :: after ∧ flaw? seen before = none ∧
      n.FirstFlaw ((before.map (·.name)).reverse ++ seen) flaw := by
  induction ns generalizing seen with
  | nil => cases h
  | cons m ns ih =>
    rw [flaw?_cons] at h
    cases hown : m.ownFlaw? seen with
    | some own =>
      rw [hown] at h
      cases h
      exact ⟨[], m, ns, rfl, rfl, ownFlaw?_eq_some_iff.1 hown⟩
    | none =>
      rw [hown, Option.none_or] at h
      obtain ⟨before, n, after, rfl, hbefore, hfirst⟩ := ih h
      refine ⟨m :: before, n, after, rfl, ?_, ?_⟩
      · rw [flaw?_cons, hown, hbefore]
        rfl
      · rw [List.map_cons, List.reverse_cons, List.append_assoc]
        exact hfirst

end SharedNetwork

namespace Settings

variable {s : Settings} {flaw : Flaw}

theorem flaw?_eq_some_iff : s.flaw? = some flaw ↔ s.FirstFlaw flaw := by
  rw [flaw?]
  by_cases hkey : s.poolKey = ""
  · rw [if_pos hkey]
    constructor
    · intro h
      cases h
      exact .emptyPoolKey hkey
    · intro h
      cases h with
      | emptyPoolKey => rfl
      | network keyed => exact absurd hkey keyed
  rw [if_neg hkey]
  constructor
  · intro h
    obtain ⟨before, n, after, hnetworks, hbefore, hfirst⟩ := SharedNetwork.exists_firstFlaw h
    obtain ⟨hall, hdistinct⟩ := (SharedNetwork.flaw?_eq_none_iff [] before).1 hbefore
    refine .network hkey hnetworks (fun m hm => (hall m hm).1) hdistinct (hfirst.congr fun name => ?_)
    rw [List.append_nil, List.mem_reverse]
  · intro h
    cases h with
    | emptyPoolKey h => exact absurd h hkey
    | @network before _ n _ _ hnetworks hsound hdistinct hfirst =>
      have hbefore : SharedNetwork.flaw? [] before = none :=
        (SharedNetwork.flaw?_eq_none_iff [] before).2
          ⟨fun m hm => ⟨hsound m hm, List.not_mem_nil⟩, hdistinct⟩
      have hown : n.ownFlaw? ((before.map (·.name)).reverse ++ []) = some flaw := by
        refine SharedNetwork.ownFlaw?_eq_some_iff.2 (hfirst.congr fun name => ?_)
        rw [List.append_nil, List.mem_reverse]
      rw [hnetworks, SharedNetwork.flaw?_append hbefore, SharedNetwork.flaw?_cons, hown, Option.some_or]

theorem validate_eq_error_iff {failure : Failure} :
    s.validate = .error failure ↔ ∃ flaw, s.FirstFlaw flaw ∧ failure = .unsound flaw := by
  simp only [← flaw?_eq_some_iff, validate]
  cases s.flaw? with
  | none =>
    constructor
    · intro h
      cases h
    · rintro ⟨_, h, _⟩
      cases h
  | some flaw =>
    constructor
    · intro h
      cases h
      exact ⟨flaw, rfl, rfl⟩
    · rintro ⟨_, h, rfl⟩
      cases h
      rfl

theorem not_isSound_iff : ¬s.IsSound ↔ ∃ flaw, s.FirstFlaw flaw := by
  simp only [← flaw?_eq_none_iff_isSound, ← flaw?_eq_some_iff]
  exact Option.ne_none_iff_exists'

/-- Sound settings are accepted and others rejected for their first flaw. -/
theorem validate_exact (s : Settings) :
    (s.validate = .ok () ↔ s.IsSound) ∧
    (¬s.IsSound ↔ ∃ flaw, s.FirstFlaw flaw) ∧
    (∀ failure, s.validate = .error failure ↔
      ∃ flaw, s.FirstFlaw flaw ∧ failure = .unsound flaw) ∧
    ∀ r : AddressRange, HasSize r.bounds ↔ ∃ size, rangeSize r.start r.stop = .ok size :=
  ⟨validate_eq_ok_iff s, not_isSound_iff, fun _ => validate_eq_error_iff,
    fun r => hasSize_iff_exists r.bounds⟩

end Settings

/-- The range of the second network comes behind its name, which is that of the first, and the third network
has no name. -/
example : SharedNetwork.flaw? [] [⟨"lan", []⟩, ⟨"lan", [⟨"s", [⟨"r", .v4 2, .v4 1⟩]⟩]⟩, ⟨"", []⟩] =
    some (.repeatedNetwork "lan") := by
  decide

end DhcpLeases
