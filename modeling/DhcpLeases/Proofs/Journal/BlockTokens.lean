import DhcpLeases.Proofs.Address.TextRoundTrip
import DhcpLeases.Proofs.Journal.Scanning

namespace DhcpLeases.Journal

open Text

theorem isPlain_of_bounds {c : Char} (hlow : 0x23 < c.toNat) (hhigh : c.toNat < 0x7B)
    (hc : c.toNat ≠ 0x3B) : isPlain c := by
  have hmark {d : Char} (hd : c.toNat ≠ d.toNat) : c ≠ d := fun h => hd (congrArg Char.toNat h)
  rw [isPlain_iff]
  constructor
  · simp only [isBlank, Bool.or_eq_false_iff, Bool.and_eq_false_iff, decide_eq_false_iff_not,
      beq_eq_false_iff_ne]
    omega
  · simp only [isMark, Bool.or_eq_false_iff, decide_eq_false_iff_not]
    refine ⟨⟨⟨⟨hmark ?_, hmark ?_⟩, hmark ?_⟩, hmark ?_⟩, hmark ?_⟩
    · exact Nat.ne_of_lt hhigh
    · exact Nat.ne_of_lt (Nat.lt_of_lt_of_le hhigh (by decide))
    · exact hc
    · exact Nat.ne_of_gt (Nat.lt_of_le_of_lt (by decide) hlow)
    · exact Nat.ne_of_gt hlow

theorem isPlain_of_isHexDigit {c : Char} (h : (Address.hexDigit? c).isSome) : isPlain c := by
  unfold Address.hexDigit? at h
  have bounds {low high : Char} (hc : low ≤ c ∧ c ≤ high) :
      low.toNat ≤ c.toNat ∧ c.toNat ≤ high.toNat := hc
  split at h
  · next hc =>
    have hn : 48 ≤ c.toNat ∧ c.toNat ≤ 57 := bounds hc
    exact isPlain_of_bounds (by omega) (by omega) (by omega)
  split at h
  · next hc =>
    have hn : 97 ≤ c.toNat ∧ c.toNat ≤ 102 := bounds hc
    exact isPlain_of_bounds (by omega) (by omega) (by omega)
  split at h
  · next hc =>
    have hn : 65 ≤ c.toNat ∧ c.toNat ≤ 70 := bounds hc
    exact isPlain_of_bounds (by omega) (by omega) (by omega)
  · cases h

theorem isReadable_address (a : Address) : (Written.bare a.text).IsReadable := by
  rw [Written.IsReadable, Address.text, String.toList_ofList]
  refine ⟨a.chars_ne_nil, List.all_eq_true.2 fun c hc => ?_⟩
  rcases Address.mem_chars hc with h | rfl | rfl
  · exact isPlain_of_isHexDigit h
  · rfl
  · rfl

theorem isReadable_ofInt (n : Int) : (Written.bare (ofInt n)).IsReadable := by
  have hdigits (m : Nat) : (Decimal.digits m).all isPlain := List.all_eq_true.2 fun c hc =>
    isPlain_of_isHexDigit (Address.isHexDigit_of_isDigit (Decimal.isDigit_of_mem_digits c hc))
  rw [Written.IsReadable, ofInt, String.toList_ofList, Decimal.signed]
  split
  · refine ⟨List.cons_ne_nil _ _, ?_⟩
    rw [List.all_cons, hdigits]
    rfl
  · exact ⟨Decimal.digits_ne_nil _, hdigits _⟩

theorem isReadable_state (state : BindingState) : (Written.bare state.name).IsReadable := by
  cases state <;> decide

theorem name_of_binding_mem {r : LeaseRecord} {s : String} (h : .binding s ∈ clauses r) :
    s = r.state.name := by
  simpa [clauses, unlessSilent] using h

theorem isReadable_written {c : Clause} (h : ∀ s, c = .binding s → (Written.bare s).IsReadable) :
    ∀ w ∈ c.written, w.IsReadable := by
  have hquoted (s : String) : (Written.quoted s).IsReadable := trivial
  have htime {keyword : String} (hkeyword : (Written.bare keyword).IsReadable) (t : Time.Instant) :
      ∀ w ∈ [.bare keyword, .bare "epoch", .bare (ofInt t.seconds)], Written.IsReadable w := by
    simp only [List.forall_mem_cons]
    exact ⟨hkeyword, by decide, isReadable_ofInt _, List.forall_mem_nil _⟩
  cases c with
  | starts time | ends time =>
    cases time with
    | none => decide
    | some t => exact htime (by decide) t
  | tstp s | tsfp s | atsfp s | cltt s =>
    simp only [Clause.written, List.forall_mem_cons]
    exact ⟨by decide, hquoted s, List.forall_mem_nil _⟩
  | binding s =>
    simp only [Clause.written, List.forall_mem_cons]
    exact ⟨by decide, by decide, h s rfl, List.forall_mem_nil _⟩
  | hardware address =>
    cases address with
    | none => decide
    | some s =>
      simp only [Clause.written, List.forall_mem_cons]
      exact ⟨by decide, by decide, hquoted s, List.forall_mem_nil _⟩
  | hostname name =>
    cases name with
    | none => decide
    | some s =>
      simp only [Clause.written, List.forall_mem_cons]
      exact ⟨by decide, hquoted s, List.forall_mem_nil _⟩
  | tag name value =>
    simp only [Clause.written, List.forall_mem_cons]
    exact ⟨by decide, hquoted name, by decide, hquoted value, List.forall_mem_nil _⟩

def Clause.words (c : Clause) : List String :=
  c.written.map Written.text

def blockTokens (r : LeaseRecord) : List Token :=
  ["lease", r.address.text].map .word ++ [.openBrace] ++
    (clauses r).flatMap (fun c => c.words.map .word ++ [.semicolon]) ++ [.closeBrace]

theorem run_line {c : Clause} (hc : ∀ w ∈ c.written, w.IsReadable) :
    Transducer.run Scanner.step .between c.line = (.between, c.words.map .word ++ [.semicolon]) := by
  have hindent : Transducer.run Scanner.step .between [' ', ' '] = (.between, []) := rfl
  have hend : Transducer.run Scanner.step .between [';', '\n'] = (.between, [.semicolon]) := rfl
  rw [Clause.line, List.append_assoc, Transducer.run_append, hindent,
    Scanner.run_spaced hc (by decide), hend, Clause.words, List.map_map]
  rfl

theorem run_block (r : LeaseRecord) :
    Transducer.run Scanner.step .between (block r) = (.between, blockTokens r) := by
  have hheader : ∀ w ∈ [Written.bare "lease", .bare r.address.text], w.IsReadable := by
    simp only [List.forall_mem_cons]
    exact ⟨by decide, isReadable_address _, List.forall_mem_nil _⟩
  have hlines : ∀ c ∈ clauses r, ∀ w ∈ c.written, w.IsReadable := by
    intro c hc
    apply isReadable_written
    rintro s rfl
    rw [name_of_binding_mem hc]
    exact isReadable_state r.state
  have hopen : Transducer.run Scanner.step .between [' ', '{', '\n'] = (.between, [.openBrace]) := rfl
  have hclose : Transducer.run Scanner.step .between ['}', '\n'] = (.between, [.closeBrace]) := rfl
  rw [block, Transducer.run_append, Transducer.run_append, Scanner.run_spaced hheader (by decide),
    hopen, Transducer.run_flatMap fun c hc => run_line (hlines c hc), hclose]
  rfl

theorem tokens_write (rs : List LeaseRecord) : tokens (write rs) = rs.flatMap blockTokens := by
  rw [tokens, write, Transducer.run_flatMap fun r _ => run_block r]
  exact List.append_nil _

end DhcpLeases.Journal
