import DhcpLeases.Lease.Query

namespace DhcpLeases

def sortNames : List String :=
  SortKey.all.map SortKey.name

theorem SortKey.ofName?_eq_none_iff (s : String) : ofName? s = none ↔ s ∉ sortNames := by
  rw [ofName?, List.find?_eq_none, sortNames, List.mem_map]
  simp only [decide_eq_true_eq, not_exists, not_and]

theorem BindingState.ofName?_eq_none_iff (s : String) : ofName? s = none ↔ s ∉ all.map name := by
  rw [ofName?, List.find?_eq_none, List.mem_map]
  simp only [decide_eq_true_eq, not_exists, not_and]

theorem BindingState.name_of_ofName? {s : String} {state : BindingState}
    (h : ofName? s = some state) : state.name = s := by
  rw [ofName?] at h
  simpa using List.find?_some h

namespace StateFilter

theorem readNames_eq (every : Bool) (states : List BindingState) (names : List String) :
    readNames every states names = match names.find? (· ∉ stateNames) with
      | some name => .error (.unknownState name)
      | none => .ok (every || names.contains "all",
          (names.filterMap BindingState.ofName?).reverse ++ states) := by
  induction names generalizing every states with
  | nil =>
    rw [readNames, List.contains_nil, Bool.or_false]
    rfl
  | cons name names ih =>
    rw [readNames]
    by_cases hall : name = "all"
    · have hknown : name ∈ stateNames := List.mem_cons.2 (.inl hall)
      have hstate : BindingState.ofName? name = none := by rw [hall]; decide
      have hcontains : (name :: names).contains "all" = true :=
        List.contains_iff_mem.2 (List.mem_cons.2 (.inl hall.symm))
      rw [if_pos hall, ih, List.find?_cons_of_neg (by simpa using hknown),
        List.filterMap_cons_none hstate, hcontains, Bool.true_or, Bool.or_true]
    have hcontains : (name :: names).contains "all" = names.contains "all" := by
      rw [List.contains_cons, beq_eq_false_iff_ne.2 (Ne.symm hall), Bool.false_or]
    rw [if_neg hall]
    cases hstate : BindingState.ofName? name with
    | none =>
      have hunknown : name ∉ stateNames := by
        rw [stateNames, List.mem_cons, not_or]
        exact ⟨hall, (BindingState.ofName?_eq_none_iff name).1 hstate⟩
      rw [List.find?_cons_of_pos (by simpa using hunknown)]
    | some state =>
      have hknown : name ∈ stateNames := by
        rw [← BindingState.name_of_ofName? hstate]
        exact List.mem_cons_of_mem _ (List.mem_map_of_mem state.mem_all)
      change readNames every (state :: states) names = _
      rw [List.find?_cons_of_neg (by simpa using hknown), ih, List.filterMap_cons_some hstate, hcontains,
        List.reverse_cons, List.append_assoc, List.singleton_append]

example : readNames false [] ["all", "idle", "gone"] = .error (.unknownState "idle") := rfl

end StateFilter

namespace LeaseQuery

variable {states : List String} {order : String}

theorem ofTexts_of_unknown_order (h : order ∉ sortNames) (states : List String)
    (pool : Option String) : ofTexts states pool order = .error (.unknownSortKey order) := by
  rw [ofTexts, (SortKey.ofName?_eq_none_iff order).2 h]

theorem ofTexts_of_unknown_state (h : order ∈ sortNames) {name : String}
    (hname : states.find? (· ∉ stateNames) = some name) (pool : Option String) :
    ofTexts states pool order = .error (.unknownState name) := by
  cases hkey : SortKey.ofName? order with
  | none => exact absurd h ((SortKey.ofName?_eq_none_iff order).1 hkey)
  | some key =>
    rw [ofTexts, hkey, StateFilter.ofNames, StateFilter.readNames_eq, hname]
    rfl

theorem ofTexts_of_known (h : order ∈ sortNames) (hstates : ∀ s ∈ states, s ∈ stateNames)
    (pool : Option String) : ∃ q, ofTexts states pool order = .ok q := by
  have hnone : states.find? (· ∉ stateNames) = none := by
    rw [List.find?_eq_none]
    simpa using hstates
  cases hkey : SortKey.ofName? order with
  | none => exact absurd h ((SortKey.ofName?_eq_none_iff order).1 hkey)
  | some key =>
    rw [ofTexts, hkey, StateFilter.ofNames, StateFilter.readNames_eq, hnone]
    exact ⟨_, rfl⟩

end LeaseQuery

end DhcpLeases
