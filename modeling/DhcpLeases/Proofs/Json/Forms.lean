import DhcpLeases.Proofs.Json.Elements

namespace DhcpLeases.Json

def Form.names : {α : Type} → Form α → List String
  | _, .done => []
  | _, .slot name _ _ _ rest => name :: rest.names

/-- The members `ms`, in the order of the form, are what is missing to the value `a`. -/
inductive Form.Lacks : {α : Type} → Form α → List (String × Printed) → α → Prop where
  | done : Lacks .done [] ()
  | filled {α β : Type} {name : String} {read : Reader α} {absent : Absent α} {rest : Form β} {a : α}
      {b : β} {ms : List (String × Printed)} :
      Lacks rest ms b → Lacks (.slot name read absent (some a) rest) ms (a, b)
  | member {α β : Type} {name : String} {read : Reader α} {absent : Absent α} {rest : Form β} {p : Printed}
      {a : α} {b : β} {ms : List (String × Printed)} :
      ReadsBack read p a → Lacks rest ms b → Lacks (.member name read absent rest) ((name, p) :: ms) (a, b)

namespace Form

variable {α : Type} {form : Form α} {a : α} {ms : List (String × Printed)}

theorem Lacks.mem_names (h : form.Lacks ms a) : ∀ m ∈ ms, m.1 ∈ form.names := by
  induction h with
  | done =>
    intro m hm
    cases hm
  | filled _ ih =>
    intro m hm
    exact List.mem_cons_of_mem _ (ih m hm)
  | member _ _ ih =>
    intro m hm
    rcases List.mem_cons.1 hm with rfl | hm
    · exact List.mem_cons_self
    · exact List.mem_cons_of_mem _ (ih m hm)

theorem Lacks.values? (h : form.Lacks [] a) : form.values? = some a := by
  generalize hms : ([] : List (String × Printed)) = ms at h
  induction h with
  | done => rfl
  | filled _ ih =>
    rw [Form.values?, ih hms]
    rfl
  | member => cases hms

theorem Lacks.put? {m : String × Printed} {rest : List Char} (h : form.Lacks (m :: ms) a)
    (hnames : form.names.Nodup) (hrest : EndsValue rest) (layout : Layout) (depth : Nat) :
    ∃ filled : Form α, form.put? m.1 (':' :: (nameGap layout ++ (m.2 layout depth ++ rest))) =
      some (.ok (filled, rest)) ∧ filled.Lacks ms a ∧ filled.names = form.names := by
  generalize hall : m :: ms = all at h
  induction h with
  | done => cases hall
  | @filled _ _ name read absent others b _ _ hothers ih =>
    obtain ⟨hfresh, hnodup⟩ := List.nodup_cons.1 hnames
    -- the slot is taken, so by distinct names the member belongs to one behind it
    have hkey : m.1 ≠ name := by
      rintro rfl
      exact hfresh (hothers.mem_names m (hall ▸ List.mem_cons_self))
    obtain ⟨filled, hput, hlacks, hsame⟩ := ih hnodup hall
    refine ⟨.slot name read absent (some b) filled, ?_, .filled hlacks, congrArg (name :: ·) hsame⟩
    rw [Form.put?, if_neg hkey, hput]
  | @member _ _ name read absent others p b _ _ hreads hothers ih =>
    obtain ⟨rfl, rfl⟩ := List.cons.inj hall
    refine ⟨.slot name read absent (some b) others, ?_, .filled hothers, rfl⟩
    have hvalue : read (nameGap layout ++ (p layout depth ++ rest)) = .ok (b, rest) :=
      hreads.reads isSpace_of_mem_nameGap hrest
    rw [Form.member, Form.put?, if_pos rfl, afterColon_cons]
    simp only [Except.bind, hvalue]

theorem Lacks.members {fuel : Nat} {layout : Layout} {depth : Nat} {rest : List Char} (first : Bool)
    (h : form.Lacks ms a) (hnames : form.names.Nodup) (hfuel : (ms.map Printed.member).length < fuel) :
    form.members fuel first (elementsText '}' layout depth rest first (ms.map Printed.member)) =
      .ok (a, rest) := by
  induction ms generalizing fuel first form with
  | nil =>
    obtain ⟨fuel, rfl⟩ := Nat.exists_eq_add_one.2 (Nat.zero_lt_of_lt hfuel)
    rw [Form.members, List.map_nil, next_closed (by decide)]
    simp only [h.values?]
  | cons m ms ih =>
    obtain ⟨fuel, rfl⟩ := Nat.exists_eq_add_one.2 (Nat.zero_lt_of_lt hfuel)
    have hrest : EndsValue (elementsText '}' layout depth rest false (ms.map Printed.member)) :=
      endsValue_elementsText (by decide) _
    obtain ⟨filled, hput, hlacks, hsame⟩ :=
      h.put? hnames hrest layout (depth + 1)
    rw [Form.members, List.map_cons, next_element (beginsUnlike_member m) (by decide)]
    simp only [memberName_member, hput]
    exact ih false hlacks (hsame ▸ hnames) (Nat.lt_of_succ_lt_succ hfuel)

end Form

theorem ReadsBack.form {α : Type} {form : Form α} {a : α} {ms : List (String × Printed)}
    (hnames : form.names.Nodup) (h : form.Lacks ms a) : ReadsBack form.read (.object ms) a where
  begins := beginsUnlike_enclosed (by decide) _
  reads {layout depth gap rest} hgap _ := by
    rw [Form.read, skipSpace_gap hgap, Printed.object, enclosed_append]
    exact h.members true hnames (length_lt_fuel _)

end DhcpLeases.Json
