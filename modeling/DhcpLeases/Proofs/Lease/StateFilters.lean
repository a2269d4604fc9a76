import DhcpLeases.Proofs.Lease.QueryTexts
import DhcpLeases.Proofs.Lookup

namespace DhcpLeases

/-- A name by which a state, or every state, can be asked for. -/
def IsStateName (name : String) : Prop :=
  name = "all" ∨ ∃ state : BindingState, state.name = name

theorem mem_stateNames_iff (name : String) : name ∈ stateNames ↔ IsStateName name := by
  rw [stateNames, List.mem_cons, List.mem_map, IsStateName]
  constructor
  · rintro (hall | ⟨state, -, hname⟩)
    · exact .inl hall
    · exact .inr ⟨state, hname⟩
  · rintro (hall | ⟨state, hname⟩)
    · exact .inl hall
    · exact .inr ⟨state, state.mem_all, hname⟩

namespace StateFilter

variable {names names' : List String} {states states' : List BindingState}

theorem admits_ofStates_iff (states : List BindingState) (state : BindingState) :
    (ofStates states).admits state ↔ state ∈ states := by
  simp [ofStates, admits, state.mem_all]

theorem ofStates_congr (h : ∀ state, state ∈ states ↔ state ∈ states') :
    ofStates states = ofStates states' := by
  have hcontains (state : BindingState) : states.contains state = states'.contains state := by
    rw [Bool.eq_iff_iff, List.contains_iff_mem, List.contains_iff_mem]
    exact h state
  rw [ofStates, ofStates]
  simp only [hcontains]

theorem mem_states_iff (names : List String) (state : BindingState) :
    state ∈ names.filterMap BindingState.ofName? ↔ state.name ∈ names := by
  rw [List.mem_filterMap]
  constructor
  · rintro ⟨name, hname, hstate⟩
    rwa [BindingState.name_of_ofName? hstate]
  · exact fun h => ⟨state.name, h, state.ofName?_name⟩

def ofKnownNames (names : List String) : StateFilter :=
  if names.contains "all" then all
  else if names.filterMap BindingState.ofName? = [] then default
  else ofStates (names.filterMap BindingState.ofName?)

theorem states_eq_nil_iff (hknown : ∀ name ∈ names, IsStateName name) (hall : "all" ∉ names) :
    names.filterMap BindingState.ofName? = [] ↔ names = [] := by
  constructor
  · intro h
    rw [List.eq_nil_iff_forall_not_mem] at h ⊢
    intro name hname
    rcases hknown name hname with rfl | ⟨state, rfl⟩
    · exact hall hname
    · exact h state ((mem_states_iff names state).2 hname)
  · rintro rfl
    rfl

theorem admits_ofKnownNames_iff (hknown : ∀ name ∈ names, IsStateName name) (state : BindingState) :
    (ofKnownNames names).admits state ↔
      "all" ∈ names ∨ state.name ∈ names ∨ names = [] ∧ state = .active := by
  unfold ofKnownNames
  by_cases hall : "all" ∈ names
  · rw [if_pos (List.contains_iff_mem.2 hall)]
    exact iff_of_true rfl (.inl hall)
  rw [if_neg (mt List.contains_iff_mem.1 hall)]
  by_cases hnil : names = []
  · rw [if_pos ((states_eq_nil_iff hknown hall).2 hnil), default, admits_ofStates_iff, List.mem_singleton]
    subst hnil
    simp
  · rw [if_neg (mt (states_eq_nil_iff hknown hall).1 hnil), admits_ofStates_iff, mem_states_iff]
    simp [hall, hnil]

theorem ofKnownNames_congr (h : ∀ name, name ∈ names' ↔ name ∈ names) :
    ofKnownNames names' = ofKnownNames names := by
  have hall : names'.contains "all" = names.contains "all" := by
    rw [Bool.eq_iff_iff, List.contains_iff_mem, List.contains_iff_mem]
    exact h "all"
  have hstates (state : BindingState) : state ∈ names'.filterMap BindingState.ofName? ↔
      state ∈ names.filterMap BindingState.ofName? := by
    rw [mem_states_iff, mem_states_iff]
    exact h state.name
  have hnil : names'.filterMap BindingState.ofName? = [] ↔ names.filterMap BindingState.ofName? = [] := by
    rw [List.eq_nil_iff_forall_not_mem, List.eq_nil_iff_forall_not_mem]
    simp only [hstates]
  rw [ofKnownNames, ofKnownNames, hall, ofStates_congr hstates]
  simp only [hnil]

theorem ofNames_eq_ok (hknown : ∀ name ∈ names, IsStateName name) :
    ofNames names = .ok (ofKnownNames names) := by
  have hnone : names.find? (· ∉ stateNames) = none := by
    rw [List.find?_eq_none]
    intro name hname
    simpa using (mem_stateNames_iff name).2 (hknown name hname)
  have hsame : ofStates (names.filterMap BindingState.ofName?).reverse =
      ofStates (names.filterMap BindingState.ofName?) :=
    ofStates_congr fun _ => List.mem_reverse
  rw [ofNames, readNames_eq, hnone, ofKnownNames]
  simp only [Except.map, Bool.false_or, List.append_nil, List.reverse_eq_nil_iff, hsame]

theorem ofNames_eq_error {before : List String} {name : String}
    (hbefore : ∀ known ∈ before, IsStateName known) (hname : ¬IsStateName name)
    (after : List String) : ofNames (before ++ name :: after) = .error (.unknownState name) := by
  have hfirst : (before ++ name :: after).find? (· ∉ stateNames) = some name := by
    refine List.find?_eq_some_iff_append.2 ⟨?_, before, after, rfl, ?_⟩
    · exact decide_eq_true (mt (mem_stateNames_iff name).1 hname)
    · intro known hmem
      simpa using (mem_stateNames_iff known).2 (hbefore known hmem)
  rw [ofNames, readNames_eq, hfirst]
  rfl

theorem ofNames_eq_ok_iff {filter : StateFilter} : ofNames names = .ok filter ↔
    (∀ name ∈ names, IsStateName name) ∧ filter = ofKnownNames names := by
  constructor
  · intro h
    rcases forall_or_first IsStateName names with hknown | ⟨_, _, after, rfl, hbefore, hname⟩
    · rw [ofNames_eq_ok hknown] at h
      exact ⟨hknown, (Except.ok.inj h).symm⟩
    · rw [ofNames_eq_error hbefore hname after] at h
      cases h
  · rintro ⟨hknown, rfl⟩
    exact ofNames_eq_ok hknown

theorem ofNames_eq_error_iff {failure : Failure} : ofNames names = .error failure ↔
    ∃ before name after, names = before ++ name :: after ∧
      (∀ known ∈ before, IsStateName known) ∧ ¬IsStateName name ∧ failure = .unknownState name := by
  constructor
  · intro h
    rcases forall_or_first IsStateName names with hknown | ⟨before, name, after, rfl, hbefore, hname⟩
    · rw [ofNames_eq_ok hknown] at h
      cases h
    · rw [ofNames_eq_error hbefore hname after] at h
      exact ⟨before, name, after, rfl, hbefore, hname, (Except.error.inj h).symm⟩
  · rintro ⟨_, _, after, rfl, hbefore, hname, rfl⟩
    exact ofNames_eq_error hbefore hname after

theorem exists_error_iff (names : List String) :
    (∃ failure, ofNames names = .error failure) ↔ ∃ name ∈ names, ¬IsStateName name := by
  constructor
  · rintro ⟨failure, h⟩
    obtain ⟨before, name, after, rfl, -, hname, -⟩ := ofNames_eq_error_iff.1 h
    exact ⟨name, List.mem_append_right _ List.mem_cons_self, hname⟩
  · rintro ⟨name, hmem, hname⟩
    cases h : ofNames names with
    | error failure => exact ⟨failure, rfl⟩
    | ok filter => exact absurd ((ofNames_eq_ok_iff.1 h).1 name hmem) hname

/-- Names make a filter if each is known, and otherwise the first that is not is reported. What a filter
admits depends on nothing but which names there are. -/
theorem ofNames_exact (names : List String) :
    ((∃ failure, ofNames names = .error failure) ↔ ∃ name ∈ names, ¬IsStateName name) ∧
    (∀ failure, ofNames names = .error failure ↔
      ∃ before name after, names = before ++ name :: after ∧
        (∀ known ∈ before, IsStateName known) ∧ ¬IsStateName name ∧
        failure = .unknownState name) ∧
    ∀ filter, ofNames names = .ok filter →
      (∀ state, filter.admits state ↔
        "all" ∈ names ∨ state.name ∈ names ∨ names = [] ∧ state = .active) ∧
      ∀ names', (∀ name, name ∈ names' ↔ name ∈ names) → ofNames names' = .ok filter := by
  refine ⟨exists_error_iff names, fun _ => ofNames_eq_error_iff, fun filter h => ?_⟩
  obtain ⟨hknown, rfl⟩ := ofNames_eq_ok_iff.1 h
  refine ⟨admits_ofKnownNames_iff hknown, fun names' hsame => ?_⟩
  have hknown' : ∀ name ∈ names', IsStateName name := fun name hmem => hknown name ((hsame name).1 hmem)
  rw [ofNames_eq_ok hknown', ofKnownNames_congr hsame]

theorem ofNames_exact_repeated :
    ofNames ["free", "expired"] = .ok (.only [.free, .expired]) ∧
      (∀ state, (StateFilter.only [.free, .expired]).admits state ↔
        state.name ∈ ["free", "expired"]) ∧
      ofNames ["expired", "free", "expired"] = .ok (.only [.free, .expired]) := by
  have hok : ofNames ["free", "expired"] = .ok (.only [.free, .expired]) := rfl
  obtain ⟨-, -, hfilter⟩ := ofNames_exact ["free", "expired"]
  obtain ⟨hadmits, hcongr⟩ := hfilter _ hok
  refine ⟨hok, fun state => ?_, hcongr _ fun name => ?_⟩
  · rw [hadmits]
    simp
  · simp only [List.mem_cons, List.not_mem_nil, or_false]
    grind

end StateFilter

end DhcpLeases
