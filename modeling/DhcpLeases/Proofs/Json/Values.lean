import DhcpLeases.Json.Form
import DhcpLeases.Json.Writing
import DhcpLeases.Proofs.Text.Decimal

namespace DhcpLeases.Json

open Text

variable {rest : List Char}

theorem hexDigit?_hexDigit : ∀ n < 16, Address.hexDigit? (hexDigit n) = some n := by
  decide

theorem fourHexDigits_control {n : Nat} (h : n < 0x20) :
    fourHexDigits ('0' :: '0' :: hexDigit (n / 16) :: hexDigit (n % 16) :: rest) = .ok (n, rest) := by
  have hzero : Address.hexDigit? '0' = some 0 := rfl
  have hhigh := hexDigit?_hexDigit (n / 16) (by omega)
  have hlow := hexDigit?_hexDigit (n % 16) (by omega)
  have hvalue : ((0 * 16 + 0) * 16 + n / 16) * 16 + n % 16 = n := by omega
  simp only [fourHexDigits, hzero, hhigh, hlow, hvalue]

theorem unicodeEscape_control {c : Char} (h : c.toNat < 0x20) :
    unicodeEscape ('0' :: '0' :: hexDigit (c.toNat / 16) :: hexDigit (c.toNat % 16) :: rest) =
      .ok (c, rest) := by
  have htrailing : ¬isTrailingSurrogate c.toNat := by
    simp only [isTrailingSurrogate, Bool.and_eq_true, decide_eq_true_eq]
    omega
  have hleading : ¬isLeadingSurrogate c.toNat := by
    simp only [isLeadingSurrogate, Bool.and_eq_true, decide_eq_true_eq]
    omega
  rw [unicodeEscape, fourHexDigits_control h]
  change (if isTrailingSurrogate c.toNat then _ else if isLeadingSurrogate c.toNat then _ else _) = _
  rw [if_neg htrailing, if_neg hleading, Char.ofNat_toNat]

theorem escape_cases (c : Char) :
    (∃ e ∈ ['"', '\\', '/', 'b', 'f', 'n', 'r', 't'], shortEscape? e = some c ∧ escape c = ['\\', e]) ∨
      (c.toNat < 0x20 ∧
        escape c = ['\\', 'u', '0', '0', hexDigit (c.toNat / 16), hexDigit (c.toNat % 16)]) ∨
      (c ≠ '"' ∧ c ≠ '\\' ∧ 0x20 ≤ c.toNat ∧ escape c = [c]) := by
  unfold escape
  split
  · next h => exact .inl ⟨'"', by decide, congrArg some h.symm, rfl⟩
  split
  · next h => exact .inl ⟨'\\', by decide, congrArg some h.symm, rfl⟩
  split
  · next h => exact .inl ⟨'b', by decide, congrArg some h.symm, rfl⟩
  split
  · next h => exact .inl ⟨'f', by decide, congrArg some h.symm, rfl⟩
  split
  · next h => exact .inl ⟨'n', by decide, congrArg some h.symm, rfl⟩
  split
  · next h => exact .inl ⟨'r', by decide, congrArg some h.symm, rfl⟩
  split
  · next h => exact .inl ⟨'t', by decide, congrArg some h.symm, rfl⟩
  split
  · next h => exact .inr (.inl ⟨h, rfl⟩)
  · next hquote hbackslash _ _ _ _ _ h =>
    exact .inr (.inr ⟨hquote, hbackslash, Nat.le_of_not_lt h, rfl⟩)

theorem stringItem_escape (c : Char) : stringItem (escape c ++ rest) = .ok (some c, rest) := by
  rcases escape_cases c with ⟨e, he, hletter, hc⟩ | ⟨hcontrol, hc⟩ | ⟨hquote, hbackslash, hplain, hc⟩
  · have hu : e ≠ 'u' := by
      rintro rfl
      revert he
      decide
    rw [hc, List.cons_append, List.singleton_append, stringItem.eq_def]
    simp only [Char.reduceEq, if_false, if_true, if_neg hu, hletter]
  · rw [hc]
    change (unicodeEscape ('0' :: '0' :: _ :: _ :: rest)).map _ = _
    rw [unicodeEscape_control hcontrol]
    rfl
  · rw [hc, List.singleton_append, stringItem.eq_def]
    simp only [if_neg hquote, if_neg hbackslash, if_neg (Nat.not_lt_of_le hplain)]

theorem length_le_length_escape (cs : List Char) : cs.length ≤ (cs.flatMap escape).length := by
  induction cs with
  | nil => exact Nat.le_refl 0
  | cons c cs ih =>
    have hc : 0 < (escape c).length := by
      apply List.length_pos_iff.2
      intro h
      have hitem : stringItem (escape c ++ []) = .ok (some c, []) := stringItem_escape c
      rw [h] at hitem
      cases hitem
    rw [List.flatMap_cons, List.length_append, List.length_cons]
    omega

theorem stringTail_escape {fuel : Nat} {read cs : List Char} (h : cs.length < fuel) :
    stringTail fuel read (cs.flatMap escape ++ '"' :: rest) =
      .ok (String.ofList (read.reverse ++ cs), rest) := by
  induction cs generalizing fuel read with
  | nil =>
    obtain ⟨fuel, rfl⟩ := Nat.exists_eq_add_one.2 (Nat.zero_lt_of_lt h)
    rw [List.append_nil]
    rfl
  | cons c cs ih =>
    obtain ⟨fuel, rfl⟩ := Nat.exists_eq_add_one.2 (Nat.zero_lt_of_lt h)
    have htail := @ih fuel (c :: read) (Nat.lt_of_succ_lt_succ h)
    rw [List.reverse_cons, List.append_assoc, List.singleton_append] at htail
    rw [List.flatMap_cons, List.append_assoc, stringTail, stringItem_escape]
    exact htail

theorem stringBody_escape (cs : List Char) :
    stringBody (cs.flatMap escape ++ '"' :: rest) = .ok (String.ofList cs, rest) := by
  have hlength := length_le_length_escape cs
  have hfuel : cs.length < (cs.flatMap escape ++ '"' :: rest).length + 1 := by
    rw [List.length_append]
    omega
  exact stringTail_escape hfuel

/-- A text that ends the value before it. -/
def EndsValue (rest : List Char) : Prop :=
  ∀ c ∈ rest.head?, c ∈ [',', ']', '}', '\n']

def Printed.BeginsUnlike (closing : Char) (p : Printed) : Prop :=
  ∀ layout depth, ∃ c cs, p layout depth = c :: cs ∧ isSpace c = false ∧ c ≠ closing

/-- A printed value is read as `a`, also as an element of an array. -/
structure ReadsBack {α : Type} (read : Reader α) (p : Printed) (a : α) : Prop where
  begins : p.BeginsUnlike ']'
  reads {layout : Layout} {depth : Nat} {gap rest : List Char} (hgap : ∀ c ∈ gap, isSpace c)
    (hrest : EndsValue rest) : read (gap ++ (p layout depth ++ rest)) = .ok (a, rest)

theorem ReadsBack.reads_here {α : Type} {read : Reader α} {p : Printed} {a : α}
    (h : ReadsBack read p a) {layout : Layout} {depth : Nat} {rest : List Char}
    (hrest : EndsValue rest) : read (p layout depth ++ rest) = .ok (a, rest) :=
  h.reads (fun _ hc => absurd hc List.not_mem_nil) hrest

theorem skipSpace_gap {gap cs : List Char} (h : ∀ c ∈ gap, isSpace c) :
    skipSpace (gap ++ cs) = skipSpace cs :=
  List.dropWhile_append_of_pos h

theorem skipSpace_cons {c : Char} {cs : List Char} (h : isSpace c = false) :
    skipSpace (c :: cs) = c :: cs :=
  List.dropWhile_cons_of_neg (Bool.not_eq_true _ ▸ h)

variable {rest : List Char}

theorem ReadsBack.string (s : String) : ReadsBack string (.string s) s where
  begins _ _ := ⟨'"', _, rfl, rfl, by decide⟩
  reads {_ _ gap rest} hgap _ := by
    have hbody : stringBody (s.toList.flatMap escape ++ '"' :: rest) = _ := stringBody_escape s.toList
    rw [Json.string, skipSpace_gap hgap]
    change stringBody (s.toList.flatMap escape ++ ['"'] ++ rest) = _
    rw [List.append_assoc, List.singleton_append, hbody, String.ofList_toList]

theorem ReadsBack.denoted {α : Type} {ofText? : List Char → Option α} {s : String} {a : α}
    (h : ofText? s.toList = some a) : ReadsBack (denoted ofText?) (.string s) a where
  begins := (ReadsBack.string s).begins
  reads hgap hrest := by
    rw [Json.denoted, (ReadsBack.string s).reads hgap hrest]
    simp only [bind, Except.bind, h]

theorem significand_append {ds : List Char} {m n : Nat} (hds : significand 0 ds = (m, 0))
    (h : m * 10 + n % 10 ≤ Number.max64) :
    significand 0 (ds ++ [Decimal.digitChar n]) = (m * 10 + n % 10, 0) := by
  rw [significand] at hds
  rw [significand, List.foldl_append, hds, List.foldl_cons, List.foldl_nil, Decimal.digit?_digitChar]
  exact if_pos ⟨rfl, h⟩

theorem significand_digits {n : Nat} (h : n ≤ Number.max64) :
    significand 0 (Decimal.digits n) = (n, 0) := by
  induction n using Decimal.digits.induct with
  | case1 n hn =>
    have hvalue : 0 * 10 + n % 10 = n := by omega
    have hone := @significand_append [] 0 n rfl (by rwa [hvalue])
    rw [hvalue] at hone
    rw [Decimal.digits, if_pos hn]
    exact hone
  | case2 n hn ih =>
    have hvalue : n / 10 * 10 + n % 10 = n := by omega
    have hlast := significand_append (ih (Nat.le_trans (Nat.div_le_self n 10) h)) (by rwa [hvalue])
    rw [hvalue] at hlast
    rw [Decimal.digits, if_neg hn]
    exact hlast

theorem digits_ne_zero_cons {n : Nat} {c : Char} {ds : List Char} :
    Decimal.digits n ≠ '0' :: c :: ds := by
  intro h
  rcases Nat.eq_zero_or_pos n with rfl | hn
  · rw [Decimal.digits] at h
    cases h
  · apply Decimal.head?_digits hn
    rw [h]
    rfl

theorem EndsValue.not_isDigit (h : EndsValue rest) : ∀ c ∈ rest.head?, Decimal.isDigit c = false := by
  intro c hc
  have hends : [',', ']', '}', '\n'].all fun c => Decimal.isDigit c = false := by decide
  exact of_decide_eq_true (List.all_eq_true.1 hends c (h c hc))

theorem span_digits (n : Nat) (h : EndsValue rest) :
    Decimal.span (Decimal.digits n ++ rest) = (Decimal.digits n, rest) :=
  Decimal.span_append Decimal.isDigit_of_mem_digits h.not_isDigit

theorem unsignedNumber_digits {n : Nat} (h : n ≤ Number.max64) (hrest : EndsValue rest) :
    unsignedNumber (Decimal.digits n ++ rest) = .ok (some n, rest) := by
  rw [unsignedNumber, span_digits n hrest]
  -- there are digits and no leading zero, and no fraction or exponent follows
  split
  · next heq => exact absurd (Prod.mk.inj heq).1 (Decimal.digits_ne_nil n)
  · next heq => exact absurd (Prod.mk.inj heq).1 (Decimal.digits_ne_nil n)
  · next heq => exact absurd (Prod.mk.inj heq).1 digits_ne_zero_cons
  · next heq =>
    obtain ⟨rfl, rfl⟩ := Prod.mk.inj heq
    simp only [significand_digits h]
    split
    · exact absurd (hrest '.' rfl) (by decide)
    · exact absurd (hrest 'e' rfl) (by decide)
    · exact absurd (hrest 'E' rfl) (by decide)
    · rfl

theorem plainDigits_digits (n : Nat) (hrest : EndsValue rest) :
    plainDigits (Decimal.digits n ++ rest) = .ok (n, rest) := by
  rw [plainDigits, span_digits n hrest]
  split
  · next heq => exact absurd (Prod.mk.inj heq).1 (Decimal.digits_ne_nil n)
  · next heq => exact absurd (Prod.mk.inj heq).1 digits_ne_zero_cons
  · next heq =>
    obtain ⟨rfl, rfl⟩ := Prod.mk.inj heq
    rw [Decimal.value_digits]

theorem isSpace_of_isDigit {c : Char} (h : Decimal.isDigit c) : isSpace c = false := by
  have hc := Decimal.bounds_of_isDigit h
  rw [← Bool.not_eq_true]
  intro hspace
  simp only [isSpace, Bool.or_eq_true, decide_eq_true_eq] at hspace
  rcases hspace with ((rfl | rfl) | rfl) | rfl
  · cases h
  · cases h
  · cases h
  · cases h

theorem exists_cons_digits (n : Nat) : ∃ c cs, Decimal.digits n = c :: cs ∧ Decimal.isDigit c := by
  obtain ⟨c, cs, hcs⟩ := List.exists_cons_of_ne_nil (Decimal.digits_ne_nil n)
  exact ⟨c, cs, hcs, Decimal.isDigit_of_mem_digits c (hcs ▸ List.mem_cons_self)⟩

theorem begins_digits (n : Nat) :
    ∃ c cs, Decimal.digits n = c :: cs ∧ isSpace c = false ∧ c ≠ ']' := by
  obtain ⟨c, cs, hcs, hc⟩ := exists_cons_digits n
  refine ⟨c, cs, hcs, isSpace_of_isDigit hc, ?_⟩
  rintro rfl
  cases hc

theorem ReadsBack.natural64 {n : Nat} (h : n ≤ Number.max64) :
    ReadsBack natural64 (.natural n) n where
  begins _ _ := begins_digits n
  reads {_ _ gap rest} hgap hrest := by
    obtain ⟨c, cs, hcs, hc⟩ := exists_cons_digits n
    have hnumber := unsignedNumber_digits h hrest
    rw [Json.natural64, skipSpace_gap hgap, Printed.natural]
    rw [hcs, List.cons_append] at hnumber ⊢
    rw [skipSpace_cons (isSpace_of_isDigit hc)]
    split
    · next heq =>
      rw [(List.cons.inj heq).1] at hc
      cases hc
    · next heq =>
      obtain ⟨rfl, rfl⟩ := List.cons.inj heq
      rw [if_pos hc, hnumber]
    · next heq => cases heq

theorem ReadsBack.natural128 {n : Nat} (h : n ≤ Number.max128) :
    ReadsBack natural128 (.natural n) n where
  begins _ _ := begins_digits n
  reads {_ _ gap rest} hgap hrest := by
    obtain ⟨c, cs, hcs, hc⟩ := exists_cons_digits n
    have hnumber := plainDigits_digits n hrest
    rw [Json.natural128, skipSpace_gap hgap, Printed.natural]
    rw [hcs, List.cons_append] at hnumber ⊢
    rw [skipSpace_cons (isSpace_of_isDigit hc)]
    change (plainDigits (c :: (cs ++ rest))).bind _ = _
    rw [hnumber]
    exact if_pos h

theorem ReadsBack.integer128 {n : Int} (hlow : -(Number.maxSigned128 + 1 : Int) ≤ n)
    (hhigh : n ≤ Number.maxSigned128) : ReadsBack integer128 (.integer n) n where
  begins _ _ := by
    rw [Printed.integer, Decimal.signed]
    split
    · exact ⟨'-', _, rfl, rfl, by decide⟩
    · exact begins_digits n.natAbs
  reads {_ _ gap rest} hgap hrest := by
    have hnumber := plainDigits_digits n.natAbs hrest
    rw [Json.integer128, skipSpace_gap hgap, Printed.integer, Decimal.signed]
    by_cases hneg : n < 0
    · have hfits : n.natAbs ≤ Number.maxSigned128 + 1 := by omega
      have hvalue : -(n.natAbs : Int) = n := by omega
      rw [if_pos hneg]
      change (plainDigits (Decimal.digits n.natAbs ++ rest)).bind _ = _
      rw [hnumber]
      change (if n.natAbs ≤ Number.maxSigned128 + 1 then Except.ok (-(n.natAbs : Int), rest) else _) = _
      rw [if_pos hfits, hvalue]
    · have hfits : n.natAbs ≤ Number.maxSigned128 := by omega
      have hvalue : (n.natAbs : Int) = n := by omega
      obtain ⟨c, cs, hcs, hc⟩ := exists_cons_digits n.natAbs
      rw [if_neg hneg]
      rw [hcs, List.cons_append] at hnumber ⊢
      rw [skipSpace_cons (isSpace_of_isDigit hc)]
      split
      · next heq => cases heq
      · next heq =>
        rw [(List.cons.inj heq).1] at hc
        cases hc
      · rw [hnumber]
        change (if n.natAbs ≤ Number.maxSigned128 then Except.ok ((n.natAbs : Int), rest) else _) = _
        rw [if_pos hfits, hvalue]

/-- A printed string is never taken for `null`. -/
theorem ReadsBack.optional {α : Type} {read : Reader α} {text : α → String} {o : Option α}
    (h : ∀ a ∈ o, ReadsBack read (.string (text a)) a) :
    ReadsBack (optional read) (.option (fun a => .string (text a)) o) o where
  begins layout depth := by
    cases o with
    | none => exact ⟨'n', _, rfl, rfl, by decide⟩
    | some a => exact (h a rfl).begins layout depth
  reads {layout depth gap rest} hgap hrest := by
    rw [Json.optional, skipSpace_gap hgap]
    cases o with
    | none => rfl
    | some a =>
      change (read (Printed.string (text a) layout depth ++ rest)).map _ = _
      rw [(h a rfl).reads_here hrest]
      rfl

theorem ReadsBack.mapped {α β : Type} {f : β → α} {read : Reader β} {p : Printed} {b : β}
    (h : ReadsBack read p b) : ReadsBack (mapped f read) p (f b) where
  begins := h.begins
  reads hgap hrest := by rw [Json.mapped, h.reads hgap hrest]

theorem ReadsBack.readText {α : Type} {read : Reader α} {p : Printed} {a : α} (h : ReadsBack read p a)
    (layout : Layout) {tail : List Char} (htail : EndsValue tail) (hspace : skipSpace tail = []) :
    readText read (p layout 0 ++ tail) = .ok a := by
  rw [Json.readText, h.reads_here htail]
  exact if_pos hspace

end DhcpLeases.Json
