namespace DhcpLeases

theorem forall_or_first {α : Type} (p : α → Prop) (xs : List α) :
    (∀ x ∈ xs, p x) ∨
      ∃ before x after, xs = before ++ x :: after ∧ (∀ y ∈ before, p y) ∧ ¬p x := by
  induction xs with
  | nil => exact .inl (List.forall_mem_nil p)
  | cons x xs ih =>
    by_cases hx : p x
    · rcases ih with hall | ⟨before, y, after, rfl, hbefore, hy⟩
      · exact .inl (List.forall_mem_cons.2 ⟨hx, hall⟩)
      · exact .inr ⟨x :: before, y, after, rfl, List.forall_mem_cons.2 ⟨hx, hbefore⟩, hy⟩
    · exact .inr ⟨[], x, xs, rfl, List.forall_mem_nil p, hx⟩

theorem find?_key_eq_self {α : Type} (key : α → String) {entries : List α} {x : α}
    (h : (entries.map key).Nodup) (hx : x ∈ entries) :
    entries.find? (fun y => key y = key x) = some x := by
  induction entries with
  | nil => cases hx
  | cons y ys ih =>
    rw [List.map_cons, List.nodup_cons] at h
    rcases List.mem_cons.1 hx with rfl | hx
    · exact List.find?_cons_of_pos (decide_eq_true rfl)
    · have hne : key y ≠ key x := by
        intro he
        exact h.1 (he ▸ List.mem_map_of_mem hx)
      rw [List.find?_cons_of_neg (by simpa using hne)]
      exact ih h.2 hx

/-- Nothing leads to an entry behind another one of its name. -/
theorem find?_key_shadowed {α : Type} (key : α → String) {before after : List α} {x y z : α}
    {name : String} (hy : y ∈ before) (hxy : key y = key x)
    (hz : (before ++ x :: after).find? (key · = name) = some z) : z ∈ before ∨ z ∈ after := by
  rw [List.find?_append] at hz
  cases hb : before.find? (key · = name) with
  | some w =>
    rw [hb] at hz
    cases hz
    exact .inl (List.mem_of_find?_eq_some hb)
  | none =>
    have hne : key y ≠ name := by simpa using List.find?_eq_none.1 hb y hy
    rw [hb, Option.none_or, List.find?_cons_of_neg (by simpa [← hxy] using hne)] at hz
    exact .inr (List.mem_of_find?_eq_some hz)

end DhcpLeases
