import DhcpLeases.Proofs.Json.Values

namespace DhcpLeases.Json

/-- The elements that are still to be read, with the closing bracket and what stands behind it. -/
def elementsText (closing : Char) (layout : Layout) (depth : Nat) (rest : List Char) :
    (first : Bool) → List Printed → List Char
  | true, [] => closing :: rest
  | false, [] => Printed.lineBreak layout depth ++ closing :: rest
  | first, p :: ps =>
    (if first then [] else [',']) ++ Printed.lineBreak layout (depth + 1) ++
      (p layout (depth + 1) ++ elementsText closing layout depth rest false ps)

variable {closing : Char} {layout : Layout} {depth : Nat} {rest : List Char}

theorem further_append (ps : List Printed) :
    Printed.further layout (depth + 1) ps ++ (Printed.lineBreak layout depth ++ closing :: rest) =
      elementsText closing layout depth rest false ps := by
  induction ps with
  | nil => rfl
  | cons p ps ih =>
    rw [Printed.further, elementsText, ← ih]
    simp only [List.append_assoc, List.cons_append]
    rfl

theorem enclosed_append (opening : Char) (ps : List Printed) :
    Printed.enclosed opening closing ps layout depth ++ rest =
      opening :: elementsText closing layout depth rest true ps := by
  cases ps with
  | nil => rfl
  | cons p ps =>
    rw [Printed.enclosed, elementsText, ← further_append]
    simp only [List.append_assoc, List.cons_append]
    rfl

theorem length_lt_length_elementsText (ps : List Printed) :
    ps.length < (elementsText closing layout depth rest false ps).length := by
  induction ps with
  | nil =>
    rw [elementsText, List.length_append, List.length_cons, List.length_nil]
    omega
  | cons p ps ih =>
    rw [elementsText]
    simp only [Bool.false_eq_true, if_false, List.length_append, List.length_cons]
    omega

theorem length_lt_fuel (ps : List Printed) :
    ps.length < (elementsText closing layout depth rest true ps).length + 1 := by
  cases ps with
  | nil => exact Nat.succ_pos _
  | cons p ps =>
    have hps : ps.length < (elementsText closing layout depth rest false ps).length :=
      length_lt_length_elementsText ps
    simp only [elementsText, List.length_append, List.length_cons]
    omega

theorem endsValue_elementsText (hclosing : closing = ']' ∨ closing = '}') (ps : List Printed) :
    EndsValue (elementsText closing layout depth rest false ps) := by
  intro c hc
  cases ps with
  | nil =>
    cases layout with
    | compact =>
      cases hc
      rcases hclosing with rfl | rfl
      · decide
      · decide
    | indented =>
      cases hc
      decide
  | cons p ps =>
    cases hc
    decide

theorem isSpace_of_mem_lineBreak : ∀ c ∈ Printed.lineBreak layout depth, isSpace c := by
  intro c hc
  cases layout with
  | compact => cases hc
  | indented =>
    rcases List.mem_cons.1 hc with rfl | hc
    · rfl
    · rw [List.eq_of_mem_replicate hc]
      rfl

theorem next_closed (hclosing : closing = ']' ∨ closing = '}') (first : Bool) :
    next closing first (elementsText closing layout depth rest first []) = .ok (.closed rest) := by
  have hspace : isSpace closing = false := by
    rcases hclosing with rfl | rfl
    · rfl
    · rfl
  have hskip : skipSpace (elementsText closing layout depth rest first []) = closing :: rest := by
    cases first with
    | true => exact skipSpace_cons hspace
    | false => rw [elementsText, skipSpace_gap isSpace_of_mem_lineBreak, skipSpace_cons hspace]
  rw [next, hskip]
  exact if_pos rfl

theorem next_element {p : Printed} (hp : p.BeginsUnlike closing) (hclosing : closing = ']' ∨ closing = '}')
    (first : Bool) (ps : List Printed) :
    next closing first (elementsText closing layout depth rest first (p :: ps)) =
      .ok (.element (p layout (depth + 1) ++ elementsText closing layout depth rest false ps)) := by
  obtain ⟨c, cs, hcs, hspace, hc⟩ := hp layout (depth + 1)
  have hskip (tail : List Char) :
      skipSpace (Printed.lineBreak layout (depth + 1) ++ (c :: cs ++ tail)) = c :: cs ++ tail := by
    rw [skipSpace_gap isSpace_of_mem_lineBreak, List.cons_append, skipSpace_cons hspace]
  rw [hcs]
  cases first with
  | true =>
    rw [next, elementsText, hcs, if_pos rfl, List.nil_append, hskip]
    simp only [List.cons_append, if_neg hc, if_true]
  | false =>
    have hcomma : ',' ≠ closing := by
      rcases hclosing with rfl | rfl
      · decide
      · decide
    have hmark (tail : List Char) : skipSpace ([','] ++ Printed.lineBreak layout (depth + 1) ++ tail) =
        ',' :: (Printed.lineBreak layout (depth + 1) ++ tail) := rfl
    rw [next, elementsText, hcs, if_neg Bool.false_ne_true, hmark]
    simp only [if_neg hcomma, Bool.false_eq_true, if_false, if_true, hskip]
    exact if_neg hc

theorem beginsUnlike_enclosed {opening : Char} (h : isSpace opening = false ∧ opening ≠ ']')
    (ps : List Printed) : (Printed.enclosed opening closing ps).BeginsUnlike ']' := by
  intro layout depth
  cases ps with
  | nil => exact ⟨opening, _, rfl, h⟩
  | cons p ps => exact ⟨opening, _, rfl, h⟩

variable {α : Type} {read : Reader α} {print : α → Printed}

theorem elements_elementsText {fuel : Nat} {as : List α} (first : Bool)
    (h : ∀ a ∈ as, ReadsBack read (print a) a) (hfuel : (as.map print).length < fuel) :
    elements read fuel first (elementsText ']' layout depth rest first (as.map print)) =
      .ok (as, rest) := by
  induction as generalizing fuel first with
  | nil =>
    obtain ⟨fuel, rfl⟩ := Nat.exists_eq_add_one.2 (Nat.zero_lt_of_lt hfuel)
    rw [elements, List.map_nil, next_closed (by decide)]
    rfl
  | cons a as ih =>
    obtain ⟨fuel, rfl⟩ := Nat.exists_eq_add_one.2 (Nat.zero_lt_of_lt hfuel)
    have ha := h a List.mem_cons_self
    -- what is still to come ends the element, so its reader stops there
    have htail := ih false (fun b hb => h b (List.mem_cons_of_mem a hb)) (Nat.lt_of_succ_lt_succ hfuel)
    rw [elements, List.map_cons, next_element ha.begins (by decide)]
    change (read (print a layout (depth + 1) ++ _)).bind _ = _
    rw [ha.reads_here (endsValue_elementsText (by decide) _)]
    change (elements read fuel false _).bind _ = _
    rw [htail]
    rfl

theorem ReadsBack.array {as : List α} (h : ∀ a ∈ as, ReadsBack read (print a) a) :
    ReadsBack (list read) (.array (as.map print)) as where
  begins := beginsUnlike_enclosed (by decide) _
  reads {layout depth gap rest} hgap _ := by
    rw [list, skipSpace_gap hgap, Printed.array, enclosed_append]
    exact elements_elementsText true h (length_lt_fuel _)

def nameGap : Layout → List Char
  | .compact => []
  | .indented => [' ']

theorem isSpace_of_mem_nameGap : ∀ c ∈ nameGap layout, isSpace c := by
  intro c hc
  cases layout with
  | compact => cases hc
  | indented =>
    rw [List.mem_singleton.1 hc]
    rfl

theorem beginsUnlike_member (m : String × Printed) : (Printed.member m).BeginsUnlike '}' := by
  intro layout depth
  exact ⟨'"', _, rfl, rfl, by decide⟩

theorem memberName_member (m : String × Printed) :
    memberName (Printed.member m layout depth ++ rest) =
      .ok (m.1, ':' :: (nameGap layout ++ (m.2 layout depth ++ rest))) := by
  have htext : Printed.member m layout depth ++ rest = '"' :: (m.1.toList.flatMap escape ++
      '"' :: ':' :: (nameGap layout ++ (m.2 layout depth ++ rest))) := by
    cases layout with
    | compact => simp [Printed.member, quotedText, nameGap]
    | indented => simp [Printed.member, quotedText, nameGap]
  rw [htext]
  change stringBody (m.1.toList.flatMap escape ++ '"' :: _) = _
  rw [stringBody_escape, String.ofList_toList]

theorem afterColon_cons (cs : List Char) : afterColon (':' :: cs) = .ok cs :=
  rfl

theorem pairs_elementsText {fuel : Nat} {ps : List (String × α)} (first : Bool)
    (h : ∀ p ∈ ps, ReadsBack read (print p.2) p.2)
    (hfuel : ((ps.map fun p => (p.1, print p.2)).map Printed.member).length < fuel) :
    pairs read fuel first (elementsText '}' layout depth rest first
      ((ps.map fun p => (p.1, print p.2)).map Printed.member)) = .ok (ps, rest) := by
  induction ps generalizing fuel first with
  | nil =>
    obtain ⟨fuel, rfl⟩ := Nat.exists_eq_add_one.2 (Nat.zero_lt_of_lt hfuel)
    rw [pairs, List.map_nil, List.map_nil, next_closed (by decide)]
    rfl
  | cons p ps ih =>
    obtain ⟨fuel, rfl⟩ := Nat.exists_eq_add_one.2 (Nat.zero_lt_of_lt hfuel)
    have hp := h p List.mem_cons_self
    have htail := ih false (fun q hq => h q (List.mem_cons_of_mem p hq)) (Nat.lt_of_succ_lt_succ hfuel)
    rw [pairs, List.map_cons, List.map_cons, next_element (beginsUnlike_member _) (by decide)]
    change (memberName (Printed.member _ layout (depth + 1) ++ _)).bind _ = _
    rw [memberName_member]
    change (read (nameGap layout ++ (print p.2 layout (depth + 1) ++ _))).bind _ = _
    rw [hp.reads isSpace_of_mem_nameGap (endsValue_elementsText (by decide) _)]
    change (pairs read fuel false _).bind _ = _
    rw [htail]
    rfl

theorem ReadsBack.dictionary {ps : List (String × α)}
    (h : ∀ p ∈ ps, ReadsBack read (print p.2) p.2) :
    ReadsBack (dictionary read) (.object (ps.map fun p => (p.1, print p.2))) ps where
  begins := beginsUnlike_enclosed (by decide) _
  reads {layout depth gap rest} hgap _ := by
    rw [Json.dictionary, skipSpace_gap hgap, Printed.object, enclosed_append]
    exact pairs_elementsText true h (length_lt_fuel _)

end DhcpLeases.Json
