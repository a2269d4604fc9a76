import DhcpLeases.Lease.Record
import DhcpLeases.Proofs.Lookup
import Mathlib.Data.List.Sort

namespace DhcpLeases

theorem insertPair_last {name value : String} {ps : List (String × String)}
    (h : ∀ p ∈ ps, compare p.1 name = .lt) : insertPair name value ps = ps ++ [(name, value)] := by
  induction ps with
  | nil => rfl
  | cons p ps ih =>
    have hgt : compare name p.1 = .gt := Std.OrientedCmp.gt_of_lt (h p List.mem_cons_self)
    rw [insertPair, hgt, List.cons_append, ← ih fun q hq => h q (List.mem_cons_of_mem p hq)]

theorem ne_of_compare_eq_lt {name key : String} (h : compare name key = .lt) : name ≠ key := by
  rintro rfl
  rw [Std.ReflOrd.compare_self] at h
  cases h

theorem find?_insertPair (name value key : String) (ps : List (String × String)) :
    (insertPair name value ps).find? (fun p => p.1 = key) =
      if key = name then some (name, value) else ps.find? fun p => p.1 = key := by
  induction ps with
  | nil => by_cases hname : name = key <;> simp [insertPair, hname, eq_comm]
  | cons p ps ih =>
    unfold insertPair
    split
    · by_cases hname : name = key <;> simp [hname, eq_comm]
    · next heq =>
      have hp : name = p.1 := Std.LawfulEqOrd.eq_of_compare heq
      by_cases hname : name = key
      · simp [hname]
      · simp [hname, ← hp, eq_comm]
    · next hgt =>
      by_cases hp : p.1 = key
      · have hne : p.1 ≠ name := ne_of_compare_eq_lt (Std.OrientedCmp.lt_of_gt hgt)
        rw [hp] at hne
        simp [hp, hne]
      · simp [hp, ih]

namespace Attributes

theorem get?_insert (as : Attributes) (name value key : String) :
    (as.insert name value).get? key = if key = name then some value else as.get? key := by
  rw [get?, insert, find?_insertPair]
  split <;> rfl

theorem mem_pairs_iff {as : Attributes} {p : String × String} :
    p ∈ as.pairs ↔ as.get? p.1 = some p.2 := by
  have hkeys : (as.pairs.map Prod.fst).Nodup :=
    List.pairwise_map.2 (as.ascending.imp ne_of_compare_eq_lt)
  constructor
  · intro hp
    rw [get?, find?_key_eq_self Prod.fst hkeys hp]
    rfl
  · intro h
    obtain ⟨q, hq, hvalue⟩ := Option.map_eq_some_iff.1 h
    have hname : q.1 = p.1 := by simpa using List.find?_some hq
    have hpair : q = p := Prod.ext hname hvalue
    exact hpair ▸ List.mem_of_find?_eq_some hq

theorem ext_get? {as bs : Attributes} (h : ∀ name, as.get? name = bs.get? name) : as = bs := by
  have hirrefl : Std.Irrefl fun p q : String × String => compare p.1 q.1 = .lt :=
    ⟨fun p hlt => ne_of_compare_eq_lt hlt rfl⟩
  have hantisymm : Std.Antisymm fun p q : String × String => compare p.1 q.1 = .lt := by
    constructor
    intro p q hpq hqp
    rw [Std.OrientedCmp.gt_of_lt hqp] at hpq
    cases hpq
  apply ext
  apply as.ascending.eq_of_mem_iff bs.ascending
  intro p
  rw [mem_pairs_iff, mem_pairs_iff, h]

theorem pairs_foldl_insert {ps : List (String × String)} {as : Attributes}
    (h : Ascending (as.pairs ++ ps)) :
    (ps.foldl (fun as p => as.insert p.1 p.2) as).pairs = as.pairs ++ ps := by
  induction ps generalizing as with
  | nil => exact (List.append_nil _).symm
  | cons p ps ih =>
    have hlast : (as.insert p.1 p.2).pairs = as.pairs ++ [p] :=
      insertPair_last fun q hq => (List.pairwise_append.1 h).2.2 q hq p List.mem_cons_self
    have hpairs : (as.insert p.1 p.2).pairs ++ ps = as.pairs ++ p :: ps := by
      rw [hlast, List.append_assoc, List.singleton_append]
    rw [List.foldl_cons, ih (hpairs ▸ h), hpairs]

theorem ofList_pairs (as : Attributes) : ofList as.pairs = as :=
  Attributes.ext (pairs_foldl_insert as.ascending)

end Attributes

end DhcpLeases
