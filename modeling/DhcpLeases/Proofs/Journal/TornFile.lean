import DhcpLeases.Journal.Reading

namespace DhcpLeases

namespace Text.Utf8

theorem flush_cases (s : State) : flush s = [] ∨ flush s = [replacement] := by
  cases s with
  | none => exact .inl rfl
  | some _ => exact .inr rfl

/-- The text of the first bytes is a beginning of the whole text, up to a character that was cut. -/
theorem decode_take (bs : List UInt8) (n : Nat) :
    ∃ cs tail rest, decode (bs.take n) = cs ++ tail ∧ decode bs = cs ++ rest ∧
      (tail = [] ∨ tail = [replacement]) := by
  have h := Transducer.output_append step flush none (bs.take n) (bs.drop n)
  rw [List.take_append_drop] at h
  exact ⟨_, _, _, rfl, h, flush_cases _⟩

end Text.Utf8

namespace Journal

open Text

def Token.IsWord (t : Token) : Prop :=
  ∃ text, t = .word text

theorem Scanner.finish_isWord (s : Scanner) : ∀ t ∈ s.finish, t.IsWord := by
  intro t ht
  cases s with
  | bare chars => exact ⟨_, List.mem_singleton.1 ht⟩
  | between | comment | quoted _ | escaped _ | octal _ _ _ => cases ht

/-- A replacement character is a letter like any other: no token ends in front of it. -/
theorem Scanner.step_replacement (s : Scanner) : (s.step Utf8.replacement).2 = [] := by
  cases s with
  | between | comment | quoted _ | escaped _ | octal _ _ _ => rfl
  | bare chars =>
    have h : (isBlank Utf8.replacement || isMark Utf8.replacement) = false := by decide
    simp only [Scanner.step, h, Bool.false_eq_true, if_false]

theorem run_cut_character {tail : List Char} (h : tail = [] ∨ tail = [Utf8.replacement])
    (s : Scanner) : (Transducer.run Scanner.step s tail).2 = [] := by
  rcases h with h | h
  · rw [h]
    rfl
  · rw [h, Transducer.run_cons, Scanner.step_replacement]
    rfl

/-- Two texts that differ in what follows a common beginning, which in the first is at most a cut
character, have the same tokens but for words at the end of the first. -/
theorem tokens_cut {tail : List Char} (h : tail = [] ∨ tail = [Utf8.replacement])
    (cs rest : List Char) :
    ∃ ts ws us, tokens (cs ++ tail) = ts ++ ws ∧ tokens (cs ++ rest) = ts ++ us ∧
      ∀ t ∈ ws, t.IsWord := by
  have hcut := Transducer.output_append Scanner.step Scanner.finish .between cs tail
  have hwhole := Transducer.output_append Scanner.step Scanner.finish .between cs rest
  rw [Transducer.output, Transducer.output, run_cut_character h, List.nil_append] at hcut
  exact ⟨_, _, _, hcut, hwhole, Scanner.finish_isWord _⟩

def Piece.statement? : Piece → Option Statement
  | .statement s => some s
  | .remark _ => none

theorem statements_eq (ts : List Token) : statements ts = (pieces ts).filterMap Piece.statement? :=
  rfl

theorem Builder.finish_no_statement (b : Builder) : b.finish.filterMap Piece.statement? = [] := by
  unfold Builder.finish
  split
  · rfl
  · split <;> rfl

theorem Builder.run_words {ws : List Token} (h : ∀ t ∈ ws, t.IsWord) (b : Builder) :
    (Transducer.run Builder.step b ws).2 = [] := by
  induction ws generalizing b with
  | nil => rfl
  | cons t ws ih =>
    obtain ⟨text, ht⟩ := h t List.mem_cons_self
    have hws := fun u hu => h u (List.mem_cons_of_mem t hu)
    rw [Transducer.run_cons, ht, ih hws]
    rfl

/-- The statements that tokens complete, whatever follows them. -/
theorem statements_append (ts us : List Token) :
    statements (ts ++ us) =
      (Transducer.run Builder.step .empty ts).2.filterMap Piece.statement? ++
        (Transducer.run Builder.step (Transducer.run Builder.step .empty ts).1 us).2.filterMap
          Piece.statement? := by
  rw [statements_eq, pieces, Transducer.run_append, List.filterMap_append, List.filterMap_append,
    Builder.finish_no_statement, List.append_nil]

theorem statements_words_prefix {ws : List Token} (h : ∀ t ∈ ws, t.IsWord) (ts us : List Token) :
    statements (ts ++ ws) <+: statements (ts ++ us) := by
  rw [statements_append, statements_append, Builder.run_words h, List.filterMap_nil, List.append_nil]
  exact List.prefix_append _ _

theorem records_prefix {text text' : List Char}
    (h : statements (tokens text) <+: statements (tokens text')) :
    records text <+: records text' := by
  obtain ⟨more, h⟩ := h
  rw [records, records, read, read, ← h, List.flatMap_append, List.filterMap_append]
  exact List.prefix_append _ _

theorem readBytes_take_records (bytes : List UInt8) (n : Nat) :
    (readBytes (bytes.take n)).records <+: (readBytes bytes).records := by
  obtain ⟨cs, tail, rest, hcut, hwhole, htail⟩ := Utf8.decode_take bytes n
  obtain ⟨ts, ws, us, hws, hus, hword⟩ := tokens_cut htail cs rest
  rw [readBytes, readBytes, hcut, hwhole]
  apply records_prefix
  rw [hws, hus]
  exact statements_words_prefix hword ts us

/-- What can be read from a torn journal file is a beginning of what the whole file holds. -/
theorem ofFile_take_records_prefix (path : String) (bytes : List UInt8) (n : Nat) :
    ∃ torn whole, ofFile path (.ok (bytes.take n)) = .ok torn ∧ ofFile path (.ok bytes) = .ok whole ∧
      torn.records <+: whole.records :=
  ⟨_, _, rfl, rfl, readBytes_take_records bytes n⟩

end Journal

end DhcpLeases
